import Mathlib.Logic.Relation
import HelloMantids.BootRuns
import HelloMantids.Lineage
import HelloMantids.ServerThreads

/-! The board over the lives of the server: each life starts up, serves requests with its
threads and is broken off anywhere, in the start-up or with threads inside the lock. The
database and the login server outlive the process. -/
namespace HelloMantids
open Scripts SharedLock Transition
variable {σ : Type}

structure Store where
  db : Database
  attribs : List (String × String)

/-- The requests of a life's threads, and how far each of them has come when it ends. -/
structure Round where
  req : Nat → Request
  phase : Nat → Phase Body Json

section Lives
variable (R : Readers) (F : FastRPC σ) (admits : List String → Session → Bool) (V : Translators)

/- A thread serves a web request that takes the lock; nobody is served, and no agent
comes, before the process accepts web requests. -/
inductive Life : Store → Round → Store → Prop where
  | lived {store args trace t rest moves} {b : Both Nat Database Body Json (σ × List Forwarded)}
      (fast : σ) (ask : Nat → Event) (req : Nat → Request)
      (run : Performs surroundings (Process.fresh store.db store.attribs) (Main.application R V args) trace t rest)
      (path : Running (handlers R) req (splitStep R F admits) (locked? R admits) ⟨initial t.db,(fast,[])⟩ moves b)
      (asks : ∀ i, b.lock.phase i ≠ .waiting → locked? R admits (ask i) = some (req i))
      (serves : moves ≠ [] → t.acceptsWeb = true) :
      Life store ⟨req,b.lock.phase⟩ ⟨b.lock.shared,t.attribs⟩

inductive Lives : Store → List Round → Store → Prop where
  | none (store) : Lives store [] store
  | next {store mid left round later} (life : Life R F admits V store round mid)
      (rest : Lives mid later left) : Lives store (round::later) left

def BoardCall.asked : BoardCall → Bool
  | .restart _ _ => false
  | _ => true

/-- The order has requests that were begun, each once, and all that were answered, with
the answer that the board gives at their place. -/
structure Covers (past : List BoardCall) (round : Round) (order : List Nat) : Prop where
  once : order.Nodup
  begun : ∀ i ∈ order, round.phase i ≠ .waiting
  answered : ∀ i a, round.phase i = .returned a → ∃ pre post, order = pre ++ i::post ∧
    a = (boardStep R (final (boardStep R) none (past ++ pre.map fun j => (round.req j).call)) (round.req i).call).2

/-- The calls are the start-ups and the covered requests of each life in turn. -/
inductive Lined : List BoardCall → List Round → List BoardCall → Prop where
  | none (past) : Lined past [] past
  | next {past round later calls} (boots : List BoardCall) (order : List Nat)
      (startUps : boots.filter BoardCall.asked = []) (covers : Covers R (past ++ boots) round order)
      (rest : Lined (past ++ boots ++ order.map fun i => (round.req i).call) later calls) :
      Lined past (round::later) calls

variable {R F admits V}

theorem bootCalls {db : Database} {t : Process} (kept : RowsKept db t) :
    ∃ boots : List BoardCall, boots.filter BoardCall.asked = [] ∧ t.db = final (boardStep R) db boots := by
  rcases kept with same | ⟨missing,made⟩
  · exact ⟨[],rfl,same⟩
  · refine ⟨[.restart ⟨"","",0,"",""⟩ ⟨true,true,⟨true,"",0,"",true⟩⟩],rfl,?_⟩
    rw [made,missing]
    rfl

theorem lifeCalls {store left : Store} {round : Round} (life : Life R F admits V store round left) :
    ∃ boots order trace s, boots.filter BoardCall.asked = [] ∧ round.phase = s.phase ∧
      Interrupted (serve R) round.req (final (boardStep R) store.db boots) trace s order ∧
      left.db = final (boardStep R) store.db (boots ++ order.map fun i => (round.req i).call) := by
  cases life with
  | lived fast ask req run path asks serves =>
    obtain ⟨boots,startUps,up⟩ := bootCalls (R := R) (bootRows run)
    have locks := lockExecution (serverDivides R F admits) path
    rw [up] at locks
    obtain ⟨order,left⟩ := interrupted (handlersServe R) (handlersStroke R) locks
    refine ⟨boots,order,_,_,startUps,rfl,left,?_⟩
    rw [finalAppend,← afterFinal]
    exact left.value

theorem livesLined {store left : Store} {rounds : List Round} (lives : Lives R F admits V store rounds left)
    (past : List BoardCall) (start : store.db = final (boardStep R) none past) :
    ∃ calls, Lined R past rounds calls ∧ left.db = final (boardStep R) none calls := by
  induction lives generalizing past with
  | none store => exact ⟨past,.none past,start⟩
  | @next store mid left round later life rest ih =>
    obtain ⟨boots,order,trace,s,startUps,phase,ended,value⟩ := lifeCalls life
    rw [start,← finalAppend] at value ended
    obtain ⟨calls,lined,last⟩ := ih _ (by rw [value,← List.append_assoc])
    refine ⟨calls,.next boots order startUps ⟨ended.once,?_,?_⟩ lined,last⟩
    · rw [phase]
      exact ended.started
    · intro i a returned
      rw [phase] at returned
      obtain ⟨pre,post,split,answer⟩ := ended.answers i a returned
      refine ⟨pre,post,split,?_⟩
      rw [afterFinal,← finalAppend] at answer
      exact answer

/-! Any moment: the process down, in its start-up, or with threads at the table. -/
inductive Moment (σ : Type) : Type 1 where
  | down (store : Store)
  | starting (s : Process) (rest : Boot Int)
  | serving (attribs : List (String × String)) (req : Nat → Request)
      (b : Both Nat Database Body Json (σ × List Forwarded))

def Moment.store : Moment σ → Store
  | .down store => store
  | .starting s _ => ⟨s.db,s.attribs⟩
  | .serving attribs _ b => ⟨b.lock.shared,attribs⟩

variable (R F admits V) in
inductive Turn : Moment σ → Moment σ → Prop where
  | up (store args) :
      Turn (.down store) (.starting (Process.fresh store.db store.attribs) (Main.application R V args))
  | answered {ρ s next} {op : Op ρ} {r : ρ} (may : surroundings.answers s op r) :
      Turn (.starting s (.ask op next)) (.starting (surroundings.after s op r) (next r))
  -- what is left of the start-up then touches neither the table nor the attributes
  | opened {s rest} (accepts : s.acceptsWeb = true) (fast : σ) (req : Nat → Request) :
      Turn (.starting s rest) (.serving s.attribs req ⟨initial s.db,(fast,[])⟩)
  | moved {attribs req b c move}
      (moves : Moves (handlers R) req (splitStep R F admits) (locked? R admits) b move c)
      (asked : ∀ i, move = .act i .acquire → ∃ e, locked? R admits e = some (req i)) :
      Turn (.serving attribs req b) (.serving attribs req c)
  | broken (m : Moment σ) : Turn m (.down m.store)

variable (R F admits V) in
abbrev Course (m n : Moment σ) : Prop := Relation.ReflTransGen (Turn R F admits V) m n

theorem continuesKept {db : Database} {t : Process} (kept : RowsKept db t) : Continues db t.db := by
  rcases kept with same | ⟨missing,made⟩
  · rw [same]
    exact continuesSame db
  · rw [missing,made]
    exact continuesCreated

theorem continuesAdvance (R : Readers) (r : Request) (l : Body) (db : Database) :
    Continues db (advance R r l db).2 := by
  cases l with
  | locked => cases r with
    | createMessage sess payload o => exact continuesEffect (effect R db (.createMessage sess payload o))
    | removeMessage sess payload o => exact continuesEffect (effect R db (.removeMessage sess payload o))
    | getMessages sess payload o => exact continuesSame db
  | fetching s => cases r with
    | getMessages sess payload o =>
      simp only [advance]
      split <;> exact continuesSame db
    | _ => exact continuesSame db
  | ended answer => cases r <;> exact continuesSame db

theorem continuesTurn {m n : Moment σ} (turn : Turn R F admits V m n) : Continues m.store.db n.store.db := by
  cases turn with
  | up store args => exact continuesSame store.db
  | answered may => exact continuesKept (rowsAnswered _ _ _ may)
  | opened accepts fast req => exact continuesSame _
  | @moved attribs req b c move moves asked =>
    cases moves with
    | act step =>
      cases step with
      | acquire idle granted => exact continuesSame _
      | advance inside more => exact continuesAdvance R _ _ _
      | release inside ended => exact continuesSame _
    | @event e free => exact continuesStep R F admits (Server.join (b.lock.shared,b.rest)) e
  | broken => exact continuesSame _

theorem continuesCourse {m n : Moment σ} (course : Course R F admits V m n) :
    Continues m.store.db n.store.db := by
  induction course with
  | refl => exact continuesSame _
  | tail before turn ih => exact continuesJoin ih (continuesTurn turn)

/-! The lives are such courses. -/
theorem performsCourse {s t : Process} {m rest : Boot Int} {trace : List (Exchange Op)}
    (run : Performs surroundings s m trace t rest) :
    Course R F admits V (Moment.starting s m : Moment σ) (.starting t rest) := by
  induction run with
  | here => exact .refl
  | next may later ih => exact .head (.answered may) ih

theorem runningCourse {req : Nat → Request} {moves : List (Move Nat Event)}
    {b c : Both Nat Database Body Json (σ × List Forwarded)} (attribs : List (String × String))
    (path : Running (handlers R) req (splitStep R F admits) (locked? R admits) b moves c)
    (asked : ∀ i, .act i .acquire ∈ moves → ∃ e, locked? R admits e = some (req i)) :
    Course R F admits V (.serving attribs req b) (.serving attribs req c) := by
  induction path with
  | nil => exact .refl
  | cons first later ih =>
    refine .head (.moved first fun i acquires => asked i ?_) (ih fun i mem => asked i (List.mem_cons_of_mem _ mem))
    rw [acquires]
    exact List.mem_cons_self

theorem lifeCourse {store left : Store} {round : Round} (life : Life R F admits V store round left) :
    Course R F admits V (.down store) (.down left) := by
  cases life with
  | @lived args trace t rest moves b fast ask req run path asks serves =>
    have up : Course R F admits V (.down store) (.starting t rest) := .head (.up store args) (performsCourse run)
    by_cases quiet : moves = []
    · subst quiet
      cases path
      exact up.tail (.broken _)
    · have locks := lockExecution (serverDivides R F admits) path
      have inv := invPath (handlersServe R) invInitial locks
      have open_ := up.tail (.opened (serves quiet) fast req)
      refine (open_.trans (runningCourse _ path fun i mem => ⟨ask i,asks i ((inv.started i).mp ?_)⟩)).tail (.broken _)
      exact List.mem_filterMap.mpr ⟨(i,.acquire),List.mem_filterMap.mpr ⟨_,mem,rfl⟩,rfl⟩

theorem livesCourse {store left : Store} {rounds : List Round} (lives : Lives R F admits V store rounds left) :
    Course R F admits V (.down store) (.down left) := by
  induction lives with
  | none store => exact .refl
  | next life rest ih => exact (lifeCourse life).trans ih

end Lives

abbrev UsualLives (store : Store) (rounds : List Round) (left : Store) : Prop :=
  Lives Readers.plain FastRPC.registry admitsAll ⟨fun _ => none,fun _ => none⟩ store rounds left

def usualLeft (store : Store) (r : Request) : Store :=
  ⟨(advance Readers.plain r .locked (usualEnd store.db store.attribs).1.db).2,(usualEnd store.db store.attribs).1.attribs⟩

-- The process dies with a thread inside the lock, the next one before it asks for anything.
theorem diedInside (store : Store) (e : Event) {r : Request} (asks : locked? Readers.plain admitsAll e = some r)
    (serves : (usualEnd store.db store.attribs).1.acceptsWeb = true) :
    ∃ phase, UsualLives store [⟨fun _ => r,phase⟩,⟨fun _ => r,fun _ => .waiting⟩] (usualLeft store r) := by
  obtain ⟨trace,run⟩ := usualRun store.db store.attribs
  have path : ∃ b, Running (handlers Readers.plain) (fun _ : Nat => r)
      (splitStep Readers.plain FastRPC.registry admitsAll) (locked? Readers.plain admitsAll)
      ⟨initial (usualEnd store.db store.attribs).1.db,([],[])⟩ [.act 0 .acquire,.act 0 .advance] b ∧
      b.lock.shared = (advance Readers.plain r .locked (usualEnd store.db store.attribs).1.db).2 :=
    ⟨_,.cons (.act (.acquire rfl nofun)) (.cons (.act (.advance rfl rfl)) (.nil _)),rfl⟩
  obtain ⟨b,path,table⟩ := path
  have died := Life.lived [] (fun _ => e) (fun _ => r) run path (fun _ _ => asks) fun _ => serves
  rw [table] at died
  refine ⟨_,.next died (.next ?_ (.none _))⟩
  exact .lived [] (fun _ => e) (fun _ => r) (.here _ usualBoot) (.nil _) (fun _ _ => asks) nofun

def againRequest : Request :=
  .createMessage ⟨"eva","2",["control"]⟩ (.object [("message",.string "again")]) ⟨true,"",0,"t2",true⟩

def removeRequest : Request :=
  .removeMessage ⟨"ana","1",["control"]⟩ (.object [("id",.int 1)]) ⟨true,"",0,"t1",true⟩

abbrev UsualCourse (m n : Moment (List (String × Socket))) : Prop :=
  Course Readers.plain FastRPC.registry admitsAll ⟨fun _ => none,fun _ => none⟩ m n

def thenRemoved : Nat → Request
  | 0 => againRequest
  | _+1 => removeRequest

abbrev postedTable : Database := (advance Readers.plain againRequest .locked (usualEnd none []).1.db).2

abbrev removedTable : Database := (advance Readers.plain removeRequest .locked postedTable).2

-- A message is posted and removed in one life.
theorem removedInLife : ∃ b c,
    UsualCourse (.down ⟨none,[]⟩) (.serving (usualEnd none []).1.attribs thenRemoved b) ∧
    UsualCourse (.serving (usualEnd none []).1.attribs thenRemoved b)
      (.serving (usualEnd none []).1.attribs thenRemoved c) ∧
    b.lock.shared = postedTable ∧ c.lock.shared = removedTable := by
  obtain ⟨trace,run⟩ := usualRun none []
  have up : UsualCourse (.down ⟨none,[]⟩)
      (.serving (usualEnd none []).1.attribs thenRemoved ⟨initial (usualEnd none []).1.db,([],[])⟩) :=
    (Relation.ReflTransGen.head (.up ⟨none,[]⟩ _) (performsCourse run)).tail (.opened rfl [] thenRemoved)
  have asked (i : Nat) : ∃ e, locked? Readers.plain admitsAll e = some (thenRemoved i) := by
    cases i with
    | zero => exact ⟨secondPost,rfl⟩
    | succ i => exact ⟨removal,rfl⟩
  have path : ∃ b c, Running (handlers Readers.plain) thenRemoved
      (splitStep Readers.plain FastRPC.registry admitsAll) (locked? Readers.plain admitsAll)
      ⟨initial (usualEnd none []).1.db,([],[])⟩ [.act 0 .acquire,.act 0 .advance,.act 0 .release] b ∧
      Running (handlers Readers.plain) thenRemoved
        (splitStep Readers.plain FastRPC.registry admitsAll) (locked? Readers.plain admitsAll)
        b [.act 1 .acquire,.act 1 .advance] c ∧ b.lock.shared = postedTable ∧ c.lock.shared = removedTable := by
    refine ⟨_,_,.cons (.act (.acquire rfl ?_)) (.cons (.act (.advance rfl rfl)) (.cons (.act (.release rfl rfl))
      (.nil _))),.cons (.act (.acquire rfl ?_)) (.cons (.act (.advance rfl rfl)) (.nil _)),rfl,rfl⟩
    · intro j l inside
      contradiction
    · intro j l inside
      cases j <;> contradiction
  obtain ⟨b,c,posts,removes,tables⟩ := path
  exact ⟨b,c,up.trans (runningCourse _ posts fun i _ => asked i),runningCourse _ removes fun i _ => asked i,tables⟩

end HelloMantids
