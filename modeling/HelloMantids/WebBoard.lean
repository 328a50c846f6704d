import HelloMantids.Board
import HelloMantids.System

/-! The server's runs as runs of the message board. Of all its events only the requests
admitted to the control entry that name a writing method of the database change the
table, each as one call of the board. -/
namespace HelloMantids
open Transition
variable {σ : Type}

def writeCall? (sess : Session) (payload : Json) (o : Exec) (remoteMethod : String) : Option BoardCall :=
  if remoteMethod = "control.createMessage" then some (.createMessage sess payload o)
  else if remoteMethod = "control.removeMessage" then some (.removeMessage sess payload o)
  else none

def boardCall? (R : Readers) (admits : List String → Session → Bool) : Event → Option BoardCall
  | .web name sess jInput o =>
      if name = "remote.control" ∧ admits ["control"] sess = true ∧ R.asString jInput "target" "" = "DB" then
        match jInput.get "payload" with
        | .ok payload => writeCall? sess payload o.write (R.asString jInput "remoteMethod" "")
        | .error _ => none
      else none
  | .agentCall .. => none
  | .connect _ => none
  | .ended .. => none

section Calls
variable {R : Readers} {F : FastRPC σ} {o : SqlOutcome} {sess : Session} {jInput : Json} {db : Database}
  {fast : σ}

theorem localWrites (methodName : String) (payload : Json) (error : Option Json) :
    (runLocalRPCMethod R o methodName sess payload error db).db =
      moved (boardStep R) db (writeCall? sess payload o.write methodName) := by
  cases ran : dispatch R o methodName sess payload db with
  | none =>
    have unknown : methodName ∉ localMethods := by
      rw [← dispatched R o methodName sess payload db,ran]
      decide
    have create : methodName ≠ "control.createMessage" :=
      Ne.symm (ne_of_mem_of_not_mem (by decide) unknown)
    have remove : methodName ≠ "control.removeMessage" :=
      Ne.symm (ne_of_mem_of_not_mem (by decide) unknown)
    rw [unknownKeepsTable unknown,writeCall?,if_neg create,if_neg remove]
    rfl
  | some handled => cases dispatchRan ran <;> rfl

theorem writeNames {methodName : String} {payload : Json} {w : Exec}
    (bad : startsWith methodName "control." = false) : writeCall? sess payload w methodName = none := by
  have create : methodName ≠ "control.createMessage" := by
    intro same; subst same; revert bad; decide
  have remove : methodName ≠ "control.removeMessage" := by
    intro same; subst same; revert bad; decide
  rw [writeCall?,if_neg create,if_neg remove]

theorem refusedWrites {admits : List String → Session → Bool}
    (bad : startsWith (R.asString jInput "remoteMethod" "") "control." = false) :
    boardCall? R admits (.web "remote.control" sess jInput o) = none := by
  simp only [boardCall?,writeNames bad]
  split
  · split <;> rfl
  · rfl

theorem controlWrites (R : Readers) (F : FastRPC σ) (o sess jInput db fast)
    {admits : List String → Session → Bool} (admitted : admits ["control"] sess = true) :
    (controlMethods R F o sess jInput db fast).db =
      moved (boardStep R) db (boardCall? R admits (.web "remote.control" sess jInput o)) := by
  unfold controlMethods
  have ran := rmtCallerRan R F o "control." sess jInput db fast
  generalize rmtCaller R F o "control." sess jInput db fast = answered at ran ⊢
  cases ran with
  | refused bad => rw [refusedWrites bad]; rfl
  | fault bad => simp only [boardCall?,bad,ite_self,moved]
  | here found good target ran =>
    subst ran
    simp only [boardCall?,admitted,target,true_and,if_true,found]
    exact localWrites _ _ _
  | away found good target ran => simp only [boardCall?,target,and_false,if_false,moved]

end Calls

theorem stepCalled (R : Readers) (F : FastRPC σ) (admits : List String → Session → Bool) (s : Server σ)
    (e : Event) : (step R F admits s e).1.db = moved (boardStep R) s.db (boardCall? R admits e) := by
  cases e with
  | web name sess jInput o =>
    cases ran : webRequest R F admits o name sess jInput s.db s.fast with
    | none =>
      have refused : ¬ (name = "remote.control" ∧ admits ["control"] sess = true) := by
        intro entered
        obtain ⟨rfl,admitted⟩ := entered
        simp [webRequest,methodsManagers,admitted] at ran
      have nothing : ¬ (name = "remote.control" ∧ admits ["control"] sess = true ∧
          R.asString jInput "target" "" = "DB") := fun entered => refused ⟨entered.1,entered.2.1⟩
      rw [stepRefused ran,boardCall?,if_neg nothing]
      rfl
    | some answered =>
      rw [stepRan ran]
      rcases webRequestCases ran with ⟨rfl,_,rfl⟩ | ⟨rfl,admitted,rfl⟩
      · have other : ¬ ("remote.stats" = "remote.control" ∧ admits ["control"] sess = true ∧
            R.asString jInput "target" "" = "DB") := by simp
        rw [boardCall?,if_neg other]
        exact (statMethodsRead R F o sess jInput s.db s.fast).1
      · exact controlWrites R F o sess jInput s.db s.fast admitted
  | agentCall nodeName method payload => rw [stepAgentCall]; rfl
  | connect sock => rfl
  | ended sock ret => rfl

theorem runCalled (R : Readers) (F : FastRPC σ) (admits : List String → Session → Bool) (s : Server σ)
    (events : List Event) : (final (step R F admits) s events).db =
      final (boardStep R) s.db (events.filterMap (boardCall? R admits)) :=
  projectedFinal (stepCalled R F admits) s events

/-- After any run of the server the table holds the live messages of its calls. -/
theorem serverStoresBoard (R : Readers) (F : FastRPC σ) (admits : List String → Session → Bool)
    (past : List BoardCall) {s : Server σ} (start : s.db = final (boardStep R) none past)
    (events : List Event) (m : Row) :
    m ∈ (final (step R F admits) s events).db.rows ↔
      Live R (history (boardStep R) none (past ++ events.filterMap (boardCall? R admits))) m := by
  rw [runCalled,start,← finalAppend]
  exact rowsLive R _ m

def boardUp : Server (List (String × Socket)) := ⟨final (boardStep Readers.plain) none firstCalls,[],[]⟩

def secondPost : Event :=
  .web "remote.control" ⟨"eva","2",["control"]⟩
    (.object [("target",.string "DB"),("remoteMethod",.string "control.createMessage"),
      ("payload",.object [("message",.string "again")])]) ⟨⟨true,"",0,"t2",true⟩,.delivers⟩

theorem serverStoresBoardThere :
    Live Readers.plain (history (boardStep Readers.plain) none
      (firstCalls ++ [secondPost].filterMap (boardCall? Readers.plain admitsAll))) ⟨2,"again","eva","t2"⟩ := by
  have stored : (⟨2,"again","eva","t2"⟩ : Row) ∈
      (final (step Readers.plain FastRPC.registry admitsAll) boardUp [secondPost]).db.rows := by decide
  exact (serverStoresBoard Readers.plain FastRPC.registry admitsAll firstCalls rfl [secondPost] _).mp stored

end HelloMantids
