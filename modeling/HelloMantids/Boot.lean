import HelloMantids.Script
import HelloMantids.Config
import HelloMantids.StaticContent
import HelloMantids.Agents

/-! The start-up as a program: what it asks of files, logs, the login server, the
database and the two listeners, in the order of the source. A call that dereferences
one of the global pointers is a request on what it points to. -/
namespace HelloMantids
open Scripts

inductive Setting where
  | printEmptyFields (value : Bool)
  | usingAttributeName (value : Bool)
  | userAlignSize (value : Nat)
  | usingColors (value : Bool)
  | usingPrintDate (value : Bool)
  | moduleAlignSize (value : Nat)
  | debug (value : Bool)
  | disableDomain (value : Bool)
  | disableModule (value : Bool)
  | standardLogSeparator (value : String)

inductive LoginSetting where
  | apiKey (value : String)
  | appName (value : String)
  | caFile (value : String)
  | remoteHost (value : String)
  | remotePort (value : Nat)
  | useIPv6 (value : Bool)
  | usingTLSPSK (value : Bool)

inductive Listener where
  | rpc
  | web
  deriving DecidableEq, Repr

inductive KeyPart where
  | ca
  | publicKey
  | privateKey
  deriving DecidableEq, Repr

inductive AcceptorSetting where
  | maxConcurrentClients (value : Nat)
  | callbackOnConnect
  | callbackOnInitFail
  | callbackOnTimedOut
  | acceptorSocket
  deriving DecidableEq, Repr

-- `listenOn` answers with its last error if it fails, `readIni` with nothing if it throws.
inductive Op : Type → Type where
  | prepareTLS : Op Unit
  | initLogSet (s : Setting) : Op Unit
  | initLog (line : LogLine) : Op Unit
  | access (path : String) : Op Bool
  | chdir (path : String) : Op Unit
  | stat (path : String) : Op Nat
  | chmod (path : String) (mode : Nat) : Op Bool
  | readIni (path : String) : Op (Option LocalIni)
  | getpid : Op Nat
  | setLocalInitConfig (config : LocalIni) : Op Unit
  | setAppLog (syslog : Bool) : Op Unit
  | setRPCLog (syslog : Bool) : Op Unit
  | appLogSet (s : Setting) : Op Unit
  | rpcLogSet (s : Setting) : Op Unit
  | log (line : LogLine) : Op Unit
  | loginSet (s : LoginSetting) : Op Unit
  | loginStart : Op Unit
  | connect (config : DBConfig) : Op Bool
  | dbTableExist : Op Bool
  | createPosts : Op Bool
  | setSecurityLevel (listener : Listener) (level : Int) : Op Unit
  | loadKey (listener : Listener) (part : KeyPart) (path : String) : Op Bool
  | setFastRPC : Op Unit
  | addMethod (name : String) : Op Unit
  | acceptorSet (s : AcceptorSetting) : Op Unit
  | listenOn (listener : Listener) (port : Nat) (addr : String) (ipv4 : Bool) : Op (Option String)
  | startThreaded : Op Unit
  | attribExist (app attrib : String) : Op Bool
  | attribAdd (app attrib description : String) : Op Bool
  | addDomain (name : String) : Op Unit
  | newMethodsManager (appName : String) : Op Unit
  | addRPCMethod (name : String) (attribs : List String) : Op Unit
  | setWebServer : Op Unit
  | setWebRPCLog : Op Unit
  | setDocumentRootPath (path : String) : Op Bool
  | setAuthenticator : Op Unit
  | setMethodManagers : Op Unit
  | setSoftwareVersion : Op Unit
  | setExtCallBackOnInitFailed : Op Unit
  | acceptPoolThreaded : Op Unit
  | getStaticContent : Op (List Json)
  | addInternalContentElement (path content : String) : Op Unit

inductive Stop where
  | badIni
  | missing (path : String)
  | refused
  | exited (code : Int)
  | fault (fault : Fault)
  deriving DecidableEq, Repr

abbrev Boot := Script Op Stop

abbrev perform {ρ : Type} (op : Op ρ) : Boot ρ := request op

structure Invocation where
  configDir : String
  daemonName : String
  date : String
  time : String

def required (path : String) : Option String → Boot String
  | some value => pure value
  | none => .stop (.missing path)

def initSchemaScript : Boot Bool := do
  let found ← perform .dbTableExist
  if !found then perform .createPosts else pure true

def startScript (V : Translators) (ini : LocalIni) : Boot Bool := do
  let host ← required "Database.DbHost" (Config.databaseHost? ini)
  let user ← required "Database.DbUser" (Config.databaseDbUser? ini)
  let pass ← required "Database.DbPass" (Config.databaseDbPass? ini)
  let dbName := Config.databaseDbName ini
  let port := Config.databasePort V ini
  let statusOK ← perform (.connect ⟨host,dbName,port,user,pass⟩)
  if statusOK then
    perform (.log ⟨"start","",.info,"Succesfully connected to MySQL Database server '%s' ",[host]⟩)
    let schema ← initSchemaScript
    if !schema then
      perform (.log ⟨"start","",.err,"Failed to initialize schema @ MySQL Database",[]⟩)
      pure false
    else pure statusOK
  else
    perform (.log ⟨"start","",.critical,"Failed to connect to the database: %s @%s:%u",
      [dbName,host,toString port]⟩)
    pure false

def listenerError (func format listenAddr : String) (listenPort : Nat) (error : String) : LogLine :=
  ⟨func,"",.critical,format,[listenAddr,toString listenPort,error]⟩

-- `if (!ok) { log; return false; }` before the rest.
def orFail (ok : Bool) (line : LogLine) (rest : Boot Bool) : Boot Bool :=
  if !ok then do
    perform (.log line)
    pure false
  else rest

def openRPCListener (V : Translators) (ini : LocalIni) (failed : String → LogLine) : Boot Bool := do
  let listenPort := Config.rpcServerListenPort V ini
  let listenAddr := Config.rpcServerListenAddr ini
  perform .setFastRPC
  perform (.addMethod "getHelloWorldMessage")
  perform (.addMethod "_pingNotFound_")
  perform (.acceptorSet (.maxConcurrentClients (Config.rpcServerMaxClients V ini)))
  perform (.acceptorSet .callbackOnConnect)
  perform (.acceptorSet .callbackOnInitFail)
  perform (.acceptorSet .callbackOnTimedOut)
  let error ← perform (.listenOn .rpc listenPort listenAddr (!Config.rpcServerUseIPv6 V ini))
  match error with
  | none =>
    perform (.acceptorSet .acceptorSocket)
    perform .startThreaded
    perform (.log ⟨"createRPCListener","",.info,"Accepting RPC clients @%s:%u via TLS",
      [listenAddr,toString listenPort]⟩)
    pure true
  | some error =>
    perform (.log (failed error))
    pure false

def createRPCListener (V : Translators) (ini : LocalIni) : Boot Bool := do
  let failed := listenerError "createRPCListener" "Error starting RPC Server @%s:%u: %s"
    (Config.rpcServerListenAddr ini) (Config.rpcServerListenPort V ini)
  perform (.setSecurityLevel .rpc (-1))
  let ca ← perform (.loadKey .rpc .ca (Config.rpcServerTLSCAFilePath ini))
  orFail ca (failed "Bad TLS RPC Server Public Key") do
  let publicKey ← perform (.loadKey .rpc .publicKey (Config.rpcServerTLSCertFilePath ini))
  orFail publicKey (failed "Bad TLS RPC Server Public Key") do
  let privateKey ← perform (.loadKey .rpc .privateKey (Config.rpcServerTLSKeyFilePath ini))
  orFail privateKey (failed "Bad TLS RPC Server Private Key") (openRPCListener V ini failed)

def ensureAttrib (app attrib description : String) : Boot Bool := do
  let there ← perform (.attribExist app attrib)
  if !there then
    let added ← perform (.attribAdd app attrib description)
    orFail added ⟨"createWebServer","",.critical,"Failed to create attribute in ther authentication server.",[]⟩ do
    perform (.log ⟨"createWebServer","",.info,"Attrib '" ++ attrib ++ "' initialized.",[]⟩)
    pure true
  else pure true

def acceptWeb (V : Translators) (ini : LocalIni) : Boot Bool := do
  perform .setAuthenticator
  perform .setMethodManagers
  perform .setSoftwareVersion
  perform .setExtCallBackOnInitFailed
  perform .acceptPoolThreaded
  perform (.log ⟨"createWebServer","",.info,"Web Server Listening @%s:%u",
    [Config.webServerListenAddr ini,toString (Config.webServerListenPort V ini)]⟩)
  pure true

def openWebServer (V : Translators) (ini : LocalIni) : Boot Bool := do
  perform (.addDomain "")
  perform (.newMethodsManager (Config.loginRPCAppName ini))
  perform (.addRPCMethod "remote.stats" ["stats"])
  perform (.addRPCMethod "remote.control" ["control"])
  perform .setWebServer
  perform .setWebRPCLog
  let resourcesPath := Config.webServerResourcesPath ini
  let located ← perform (.setDocumentRootPath resourcesPath)
  orFail located ⟨"createWebServer","",.critical,"Error locating web server resources at %s",[resourcesPath]⟩
    (acceptWeb V ini)

def webAttribs (V : Translators) (ini : LocalIni) : Boot Bool := do
  let appName := Config.loginRPCAppName ini
  let control ← ensureAttrib appName "control" "Control Access"
  if !control then pure false
  else
    let stats ← ensureAttrib appName "stats" "Stats Access"
    if !stats then pure false else openWebServer V ini

def createWebServer (V : Translators) (ini : LocalIni) : Boot Bool := do
  let listenPort := Config.webServerListenPort V ini
  let listenAddr := Config.webServerListenAddr ini
  let failed := listenerError "createWebServer" "Error starting Web Server @%s:%u: %s" listenAddr listenPort
  perform (.setSecurityLevel .web (-1))
  let publicKey ← perform (.loadKey .web .publicKey (Config.webServerTLSCertFilePath ini))
  orFail publicKey (failed "Bad TLS WEB Server Public Key") do
  let privateKey ← perform (.loadKey .web .privateKey (Config.webServerTLSKeyFilePath ini))
  orFail privateKey (failed "Bad TLS WEB Server Private Key") do
  let error ← perform (.listenOn .web listenPort listenAddr (!Config.webServerUseIPv6 V ini))
  match error with
  | none => webAttribs V ini
  | some error =>
    perform (.log (failed error))
    pure false

def addStatic (R : Readers) : Nat → List Json → Boot Unit
  | _,[] => pure ()
  | i,jContent::rest =>
      match complete jContent with
      | .error fault => .stop (.fault fault)
      | .ok true => do
          let path := R.asString jContent "path" ""
          perform (.addInternalContentElement path (R.asString jContent "content" ""))
          perform (.log (addingResource path))
          addStatic R (i + 1) rest
      | .ok false => do
          perform (.log (badResource i))
          addStatic R (i + 1) rest

namespace Main

def setAppLogs (V : Translators) (ini : LocalIni) : Boot Unit := do
  let syslog := Config.logsToSyslog V ini
  perform (.setAppLog syslog)
  perform (.appLogSet (.printEmptyFields true))
  perform (.appLogSet (.usingColors (Config.logsShowColors V ini)))
  perform (.appLogSet (.usingPrintDate (Config.logsShowDate V ini)))
  perform (.appLogSet (.moduleAlignSize 26))
  perform (.appLogSet (.usingAttributeName false))
  perform (.appLogSet (.debug (Config.logsDebug V ini)))
  perform (.setRPCLog syslog)
  perform (.rpcLogSet (.printEmptyFields true))
  perform (.rpcLogSet (.usingColors (Config.logsShowColors V ini)))
  perform (.rpcLogSet (.usingPrintDate (Config.logsShowDate V ini)))
  perform (.rpcLogSet (.disableDomain true))
  perform (.rpcLogSet (.disableModule true))
  perform (.rpcLogSet (.moduleAlignSize 26))
  perform (.rpcLogSet (.usingAttributeName false))
  perform (.rpcLogSet (.standardLogSeparator ","))
  perform (.rpcLogSet (.debug (Config.logsDebug V ini)))

def setLogin (V : Translators) (ini : LocalIni) : Boot Unit := do
  perform (.loginSet (.apiKey (Config.loginRPCApiKey ini)))
  perform (.loginSet (.appName (Config.loginRPCAppName ini)))
  perform (.loginSet (.caFile (Config.loginRPCTLSCAFilePath ini)))
  perform (.loginSet (.remoteHost (Config.loginRPCRemoteHost ini)))
  perform (.loginSet (.remotePort (Config.loginRPCRemotePort V ini)))
  perform (.loginSet (.useIPv6 (Config.loginRPCUseIPv6 V ini)))
  perform (.loginSet (.usingTLSPSK (Config.loginRPCUsePSK V ini)))

-- Whether `config.ini` ends up readable by its owner alone.
def fixMode (file : String) : Boot Bool := do
  let mode ← perform (.stat file)
  if mode % 512 != 384 then
    perform (.initLog ⟨"_config","",.warn,
      "config.ini file permissions are not 0600 and API key may be exposed, changing...",[]⟩)
    let changed ← perform (.chmod file 384)
    if !changed then
      perform (.initLog ⟨"_config","",.critical,"Configuration file permissions can't be changed to 0600",[]⟩)
      pure false
    else
      perform (.initLog ⟨"_config","",.info,"config.ini file permissions changed to 0600",[]⟩)
      pure true
  else pure true

def loadIni (file : String) : Boot (Option LocalIni) := do
  let fixed ← fixMode file
  if !fixed then pure none
  else
    let ini ← perform (.readIni file)
    match ini with
    | some ini => pure (some ini)
    | none => .stop .badIni

def readConfig (configDir : String) : Boot (Option LocalIni) := do
  perform .prepareTLS
  perform (.initLogSet (.printEmptyFields true))
  perform (.initLogSet (.usingAttributeName false))
  perform (.initLogSet (.userAlignSize 1))
  let file := configDir ++ "/config.ini"
  perform (.initLog ⟨"_config","",.info,"Loading configuration: %s",[file]⟩)
  let dir ← perform (.access configDir)
  if !dir then
    perform (.initLog ⟨"_config","",.critical,"Missing configuration dir: %s",[configDir]⟩)
    pure none
  else
    perform (.chdir configDir)
    let readable ← perform (.access file)
    if readable then loadIni file
    else
      perform (.initLog ⟨"_config","",.critical,"Missing configuration: %s",[file]⟩)
      pure none

def config (V : Translators) (args : Invocation) : Boot (Option LocalIni) := do
  let read ← readConfig args.configDir
  match read with
  | none => pure none
  | some ini =>
    perform (.setLocalInitConfig ini)
    setAppLogs V ini
    setLogin V ini
    let started ← startScript V ini
    if !started then pure none
    else
    perform (.log ⟨"_config","",.info,"Configuration file loaded OK.",[]⟩)
    pure (some ini)

def start (R : Readers) (V : Translators) (args : Invocation) (ini : LocalIni) : Boot Int := do
  let pid ← perform .getpid
  perform (.log ⟨"_start","",.info,"Starting... (Build date %s %s), PID: %i",[args.date,args.time,toString pid]⟩)
  perform (.log ⟨"_start","",.info,"Using config dir: %s",[args.configDir]⟩)
  perform .loginStart
  let rpc ← createRPCListener V ini
  if !rpc then .stop (.exited (-2))
  else
  let web ← createWebServer V ini
  if !web then .stop (.exited (-1))
  else
  perform (.log ⟨"_start","",.info,"Looking for static login resources...",[]⟩)
  let staticContent ← perform .getStaticContent
  addStatic R 0 staticContent
  let pid ← perform .getpid
  perform (.log ⟨"_start","",.info,args.daemonName ++ " initialized with PID: %d",[toString pid]⟩)
  pure 0

/-- The application library runs `_start` once `_config` has returned true. -/
def application (R : Readers) (V : Translators) (args : Invocation) : Boot Int := do
  let configured ← config V args
  match configured with
  | some ini => start R V args ini
  | none => .stop .refused

end Main
end HelloMantids
