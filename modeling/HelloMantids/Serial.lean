import Mathlib.Data.List.Perm.Subperm
import HelloMantids.Board
import HelloMantids.SharedLock

/-! Concurrent requests. Each handler takes the shared mutex, to write when it creates
or removes and to read when it lists, runs its statement inside, fetches its rows one
by one from the live table and lets the mutex go at the end of its scope. -/
namespace HelloMantids
open SharedLock

inductive Request where
  | createMessage (sess : Session) (payload : Json) (o : Exec)
  | removeMessage (sess : Session) (payload : Json) (o : Exec)
  | getMessages (sess : Session) (payload : Json) (o : ReadOutcome)

def Request.call : Request → BoardCall
  | .createMessage sess payload o => .createMessage sess payload o
  | .removeMessage sess payload o => .removeMessage sess payload o
  | .getMessages sess payload o => .getMessages sess payload o

def serve (R : Readers) (r : Request) (db : Database) : Json × Database :=
  let served := boardStep R db r.call
  (served.2,served.1)

def lockMode : Request → Mode
  | .createMessage .. => .write
  | .removeMessage .. => .write
  | .getMessages .. => .read

inductive Body where
  | locked
  | fetching (s : Loop)
  | ended (answer : Json)

def Body.finished : Body → Option Json
  | .locked => none
  | .fetching _ => none
  | .ended answer => some answer

def advance (R : Readers) : Request → Body → Database → Body × Database
  | .createMessage sess payload o,.locked,db =>
      let handled := createMessage R o sess payload db
      (.ended handled.answer,handled.db)
  | .removeMessage sess payload o,.locked,db =>
      let handled := removeMessage R o sess payload db
      (.ended handled.answer,handled.db)
  | .getMessages _ _ o,.locked,db => (.fetching (Loop.opened o db),db)
  | .getMessages _ _ _,.fetching s,db =>
      match fetch db s with
      | some next => (.fetching next,db)
      | none => (.ended (listed s.ret),db)
  | _,body,db => (body,db)

def handlers (R : Readers) : Program Database Request Body Json where
  mode := lockMode
  enter _ := .locked
  advance := advance R
  finished := Body.finished

/-! A body alone on the table computes what the handler does. -/
def Within (R : Readers) (db : Database) (r : Request) : Body → Database → Prop
  | .locked,now => now = db
  | .fetching s,now => now = db ∧ ∃ sess payload o, r = .getMessages sess payload o ∧ s.Sound ∧
      s.yields db = (Loop.opened o db).yields db
  | .ended answer,now => serve R r db = (answer,now)

theorem getMessagesYields (o : ReadOutcome) (db : Database) :
    (getMessages o db).answer = listed ((Loop.opened o db).yields db) := by
  rw [openedYields]
  simp only [getMessages,(openedLoop o db).2]

theorem withinStep {R : Readers} {db now : Database} {r : Request} {l : Body}
    (inside : Within R db r l now) (more : l.finished = none) :
    Within R db r (advance R r l now).1 (advance R r l now).2 := by
  cases l with
  | locked =>
    cases inside
    cases r with
    | createMessage sess payload o => rfl
    | removeMessage sess payload o => rfl
    | getMessages sess payload o => exact ⟨rfl,sess,payload,o,rfl,openedSound o db,rfl⟩
  | fetching s =>
    obtain ⟨rfl,sess,payload,o,rfl,sound,yields⟩ := inside
    cases row : fetch now s with
    | some next =>
      obtain ⟨kept,same,_⟩ := fetchSome sound row
      simp only [advance,row]
      exact ⟨rfl,sess,payload,o,rfl,kept,same.trans yields⟩
    | none =>
      have written := fetchNone sound row
      simp only [advance,row,Within,serve,Request.call,boardStep]
      rw [getMessagesYields,← yields,written]
  | ended answer => contradiction

theorem bodyWithin {R : Readers} {r : Request} {db : Database} {c : Body × Database}
    (body : Reaches (handlers R) r (.locked,db) c) : Within R db r c.1 c.2 := by
  induction body with
  | start => rfl
  | next before more ih => exact withinStep ih more

theorem handlersServe (R : Readers) : Serves (handlers R) (serve R) where
  computes := by
    intro r x l y a body ended
    have inside := bodyWithin body
    cases l with
    | locked => contradiction
    | fetching s => contradiction
    | ended answer => cases ended; exact inside
  readOnly := by
    intro r l x mode
    cases r with
    | createMessage sess payload o => contradiction
    | removeMessage sess payload o => contradiction
    | getMessages sess payload o =>
      cases l with
      | locked => rfl
      | fetching s => simp only [handlers,advance]; split <;> rfl
      | ended answer => rfl
  keeps := by
    intro r x mode
    cases r with
    | createMessage sess payload o => contradiction
    | removeMessage sess payload o => contradiction
    | getMessages sess payload o => rfl

theorem handlersSerialisable {ι : Type} [DecidableEq ι] (R : Readers) (req : ι → Request)
    (db : Database) {trace : List (ι × Action)} {s : State ι Database Body Json}
    (path : Execution (handlers R) req (initial db) trace s)
    (finished : ∀ i, ∃ a, s.phase i = .returned a) :
    (∃ order, SerialRun (serve R) req db trace s order) ∧
    ∀ i sess payload o, req i = .getMessages sess payload o →
      ∃ early rest m, Window (handlers R) (serve R) req db trace s i early rest m ∧
        s.phase i = .returned (listed ((delivered o m.shared).map messageJson)) := by
  refine ⟨⟨grants trace,serializable (handlersServe R) path finished⟩,?_⟩
  intro i sess payload o asked
  obtain ⟨a,ended⟩ := finished i
  have mode : (handlers R).mode (req i) = .read := by rw [asked]; rfl
  obtain ⟨early,rest,m,window⟩ := readerWindow (handlersServe R) path ended mode
  refine ⟨early,rest,m,window,?_⟩
  have answer := window.answer
  rw [asked] at answer
  rw [answer,← getMessagesAnswer]
  rfl

inductive Visitor where
  | poster
  | reader
  | other
  deriving DecidableEq, Repr

def visits : Visitor → Request
  | .poster => .createMessage ⟨"ana","1",["control"]⟩ (.object [("message",.string "again")]) ⟨true,"",0,"t1",true⟩
  | .reader => .getMessages ⟨"eva","2",["stats"]⟩ .null .delivers
  | .other => .getMessages ⟨"bob","3",["stats"]⟩ .null .delivers

-- The two readers fetch the stored row while both are inside; the poster comes after.
def overlapping : List (Visitor × Action) :=
  [(.reader,.acquire),(.reader,.advance),(.other,.acquire),(.reader,.advance),(.other,.advance),
   (.other,.advance),(.reader,.advance),(.other,.advance),(.other,.release),(.reader,.release),
   (.poster,.acquire),(.poster,.advance),(.poster,.release)]

theorem handlersSerialisableThere :
    ∃ s, Execution (handlers Readers.plain) visits (initial (some onePost)) overlapping s ∧
      (∃ order, SerialRun (serve Readers.plain) visits (some onePost) overlapping s order) ∧
      ∀ i, i ≠ .poster → s.phase i = .returned (.array [messageJson ⟨1,"hello","ana","t0"⟩]) ∧
        ∃ early rest m,
          Window (handlers Readers.plain) (serve Readers.plain) visits (some onePost) overlapping s i early rest m ∧
          s.phase i = .returned (listed ((delivered .delivers m.shared).map messageJson)) := by
  have path : ∃ s, Execution (handlers Readers.plain) visits (initial (some onePost)) overlapping s ∧
      (∀ i, ∃ a, s.phase i = .returned a) ∧
      ∀ i, i ≠ .poster → s.phase i = .returned (.array [messageJson ⟨1,"hello","ana","t0"⟩]) := by
    refine ⟨_,
      .cons (.acquire rfl ?_) (.cons (.advance rfl rfl) (.cons (.acquire rfl ?_) (.cons (.advance rfl rfl)
      (.cons (.advance rfl rfl) (.cons (.advance rfl rfl) (.cons (.advance rfl rfl) (.cons (.advance rfl rfl)
      (.cons (.release rfl rfl) (.cons (.release rfl rfl)
      (.cons (.acquire rfl ?_) (.cons (.advance rfl rfl) (.cons (.release rfl rfl) (.nil _))))))))))))),?_,?_⟩
    · intro j l inside
      cases j <;> contradiction
    · intro j l inside
      cases j <;> first | contradiction | exact ⟨rfl,rfl⟩
    · intro j l inside
      cases j <;> contradiction
    · intro i
      cases i <;> exact ⟨_,rfl⟩
    · intro i reads
      cases i <;> first | contradiction | rfl
  obtain ⟨s,path,finished,shown⟩ := path
  obtain ⟨serial,windows⟩ := handlersSerialisable Readers.plain visits (some onePost) path finished
  refine ⟨s,path,serial,fun i reads => ⟨shown i reads,?_⟩⟩
  cases i with
  | poster => exact absurd rfl reads
  | reader => exact windows .reader _ _ _ rfl
  | other => exact windows .other _ _ _ rfl

/-! The order is a run of the board, so concurrent requests keep its refinement. -/
theorem afterFinal {ι : Type} (R : Readers) (req : ι → Request) (db : Database) (order : List ι) :
    after (serve R) req db order = Transition.final (boardStep R) db (order.map fun i => (req i).call) := by
  induction order generalizing db with
  | nil => rfl
  | cons i rest ih => exact ih (serve R (req i) db).2

theorem handlersStroke (R : Readers) : Stroke (handlers R) (serve R) := by
  intro r db l now body
  have inside := bodyWithin body
  cases l with
  | locked => exact Or.inl inside
  | fetching s => exact Or.inl inside.1
  | ended answer => exact Or.inr (congrArg Prod.snd inside).symm

/-- Wherever the handlers are broken off, the table is that of the board after some of
the requests in an order: all that have been answered, and no half of any other. -/
theorem brokenOffSerially {ι : Type} [DecidableEq ι] (R : Readers) (req : ι → Request)
    (past : List BoardCall) {trace : List (ι × Action)} {s : State ι Database Body Json}
    (path : Execution (handlers R) req (initial (Transition.final (boardStep R) none past)) trace s) :
    ∃ order, Interrupted (serve R) req (Transition.final (boardStep R) none past) trace s order ∧
      ∀ m, m ∈ s.shared.rows ↔
        Live R (Transition.history (boardStep R) none (past ++ order.map fun i => (req i).call)) m := by
  obtain ⟨order,left⟩ := interrupted (handlersServe R) (handlersStroke R) path
  refine ⟨order,left,fun m => ?_⟩
  rw [left.value,afterFinal,← Transition.finalAppend]
  exact rowsLive R _ m

def twoRequests : Bool → Request
  | false => .createMessage ⟨"ana","1",["control"]⟩ (.object [("message",.string "hello")]) ⟨true,"",0,"t1",true⟩
  | true => .getMessages ⟨"eva","2",["stats"]⟩ .null .delivers

abbrev emptyBoard : Database := Transition.final (boardStep Readers.plain) none (firstCalls.take 1)

-- The poster has run its statement, but the lock is not released when it is broken off.
theorem brokenOffSeriallyThere :
    ∃ s, Execution (handlers Readers.plain) twoRequests (initial emptyBoard) [(false,.acquire),(false,.advance)] s ∧
      ∃ order : List Bool, order.Nodup ∧ Live Readers.plain (Transition.history (boardStep Readers.plain) none
        (firstCalls.take 1 ++ order.map fun i => (twoRequests i).call)) ⟨1,"hello","ana","t1"⟩ := by
  have path : ∃ s, Execution (handlers Readers.plain) twoRequests (initial emptyBoard)
      [(false,.acquire),(false,.advance)] s ∧ ⟨1,"hello","ana","t1"⟩ ∈ s.shared.rows := by
    refine ⟨_,.cons (.acquire rfl ?_) (.cons (.advance rfl rfl) (.nil _)),List.mem_singleton_self _⟩
    intro j l inside
    cases j <;> contradiction
  obtain ⟨s,path,stored⟩ := path
  obtain ⟨order,left,rows⟩ := brokenOffSerially Readers.plain twoRequests (firstCalls.take 1) path
  exact ⟨s,path,order,left.once,(rows _).mp stored⟩

/-! Each body ends, so every execution can be completed. -/
def remaining (_ : Request) (l : Body) (db : Database) : Nat :=
  match l with
  | .locked => db.rows.length + 2
  | .fetching s => (reachable s.query db).length - s.query.position + 1
  | .ended _ => 0

theorem handlersCountDown (R : Readers) : CountsDown (handlers R) remaining := by
  intro r x l y body more
  have inside := bodyWithin body
  cases l with
  | locked =>
    cases r with
    | createMessage sess payload o => exact Nat.succ_pos _
    | removeMessage sess payload o => exact Nat.succ_pos _
    | getMessages sess payload o =>
      have few := openedReachable o y
      simp only [handlers,advance,remaining]
      omega
  | fetching s =>
    obtain ⟨rfl,sess,payload,o,rfl,sound,_⟩ := inside
    cases row : fetch y s with
    | none =>
      simp only [handlers,advance,row,remaining]
      exact Nat.succ_pos _
    | some next =>
      obtain ⟨_,_,moved,below,reach⟩ := fetchSome sound row
      simp only [handlers,advance,row,remaining,reach,moved]
      omega
  | ended answer => contradiction

theorem rowsServe (R : Readers) (r : Request) (db : Database) :
    (serve R r db).2.rows.length ≤ db.rows.length + 1 := by
  change (Transition.served (boardStep R) db r.call).after.rows.length ≤
    (Transition.served (boardStep R) db r.call).before.rows.length + 1
  cases effect R db r.call with
  | posted sess payload o t u event answer before after rows auto =>
    rw [before,after]
    simp [Database.rows,rows]
  | removed sess payload o t event answer before after =>
    rw [before,after]
    exact Nat.le_succ_of_le (List.length_filter_le _ _)
  | kept act after =>
    rcases after with same | ⟨before,made⟩
    · rw [same]
      exact Nat.le_succ _
    · rw [made]
      exact Nat.zero_le _

theorem rowsAfter {ι : Type} (R : Readers) (req : ι → Request) (db : Database) (order : List ι) :
    (after (serve R) req db order).rows.length ≤ db.rows.length + order.length := by
  induction order using List.reverseRecOn with
  | nil => exact Nat.le_refl _
  | append_singleton order i ih =>
    have one := rowsServe R (req i) (after (serve R) req db order)
    rw [afterSnoc,List.length_append,List.length_singleton]
    omega

/-- Whatever the schedule, each thread takes a bounded number of turns, and from
wherever it stands the schedule can be completed. -/
theorem handlersFinish {ι : Type} [DecidableEq ι] (R : Readers) (req : ι → Request) (db : Database)
    {trace : List (ι × Action)} {s : State ι Database Body Json}
    (path : Execution (handlers R) req (initial db) trace s) (everyone : List ι)
    (all : ∀ i, i ∈ everyone) :
    (∀ i, turns trace i ≤ db.rows.length + everyone.length + 4) ∧
    trace.length ≤ everyone.length * (db.rows.length + everyone.length + 4) ∧
    ∃ more t, Execution (handlers R) req s more t ∧ ∀ i, ∃ a, t.phase i = .returned a := by
  have enough : ∀ past m i, Execution (handlers R) req (initial db) past m →
      remaining (req i) ((handlers R).enter (req i)) m.shared ≤ db.rows.length + everyone.length + 2 := by
    intro past m i before
    obtain ⟨order,left⟩ := interrupted (handlersServe R) (handlersStroke R) before
    have grown := rowsAfter R req db order
    have few := (List.Nodup.subperm left.once fun i _ => all i).length_le
    rw [← left.value] at grown
    change m.shared.rows.length + 2 ≤ _
    omega
  have each := turnsBounded (handlersServe R) (handlersCountDown R) enough path
  exact ⟨each,lengthBounded (fun e _ => all e.1) each,
    finishAll (handlersServe R) (handlersCountDown R) (invPath (handlersServe R) invInitial path) everyone
      fun i absent => absurd (all i) absent⟩

theorem handlersFinishThere :
    ∃ s, Execution (handlers Readers.plain) twoRequests (initial emptyBoard) [(true,.acquire)] s ∧
      ∀ more t, Execution (handlers Readers.plain) twoRequests s more t →
        more.length ≤ 11 ∧ ∃ last u, Execution (handlers Readers.plain) twoRequests t last u ∧
          ∀ i, ∃ a, u.phase i = .returned a := by
  have path : ∃ s, Execution (handlers Readers.plain) twoRequests (initial emptyBoard) [(true,.acquire)] s := by
    refine ⟨_,.cons (.acquire rfl ?_) (.nil _)⟩
    intro j l inside
    cases j <;> contradiction
  obtain ⟨s,path⟩ := path
  refine ⟨s,path,fun more t later => ?_⟩
  obtain ⟨_,short,completed⟩ := handlersFinish Readers.plain twoRequests emptyBoard (pathJoin path later)
    [false,true] (by decide)
  have none_ : emptyBoard.rows.length = 0 := rfl
  rw [none_,List.length_append] at short
  simp only [List.length_cons,List.length_nil] at short
  exact ⟨by omega,completed⟩

end HelloMantids
