import HelloMantids.SharedLock
import HelloMantids.System
import HelloMantids.Board
import HelloMantids.Serial
import HelloMantids.WebBoard
import HelloMantids.Lineage
import HelloMantids.Accounts
import HelloMantids.AgentRuns
import HelloMantids.ServerThreads
import HelloMantids.StaticContent
import HelloMantids.Rendering
import HelloMantids.BoardPage
import HelloMantids.BrowserRuns
import HelloMantids.Page2
import HelloMantids.BootRuns
import HelloMantids.Lifetimes
