import HelloMantids.Beside
import HelloMantids.Serial
import HelloMantids.System

/-! The whole server under concurrent requests. A web request that reaches one of the
three handlers of the table runs under its mutex; every other request, forwarded calls,
agents that connect, call and leave happen beside it, at any time. Every interleaving
comes to what the server does on these events one after the other. -/
namespace HelloMantids
open Transition SharedLock
variable {σ : Type}

def caller? (admits : List String → Session → Bool) (name : String) (sess : Session) : Option String :=
  if name = "remote.stats" then if admits ["stats"] sess then some "stats." else none
  else if name = "remote.control" then if admits ["control"] sess then some "control." else none
  else none

def lockRequest? (sess : Session) (payload : Json) (o : SqlOutcome) (remoteMethod : String) : Option Request :=
  if remoteMethod = "stats.getMessages" then some (.getMessages sess payload o.read)
  else if remoteMethod = "control.createMessage" then some (.createMessage sess payload o.write)
  else if remoteMethod = "control.removeMessage" then some (.removeMessage sess payload o.write)
  else none

-- The handler that a request runs under the mutex, if it comes to one.
def locked? (R : Readers) (admits : List String → Session → Bool) : Event → Option Request
  | .web name sess jInput o =>
      (caller? admits name sess).bind fun caller =>
        if startsWith (R.asString jInput "remoteMethod" "") caller = true ∧
            R.asString jInput "target" "" = "DB" then
          match jInput.get "payload" with
          | .ok payload => lockRequest? sess payload o (R.asString jInput "remoteMethod" "")
          | .error _ => none
        else none
  | .agentCall .. => none
  | .connect _ => none
  | .ended .. => none

def Server.split (s : Server σ) : Database × (σ × List Forwarded) := (s.db,(s.fast,s.forwarded))

def Server.join (s : Database × (σ × List Forwarded)) : Server σ := ⟨s.1,s.2.1,s.2.2⟩

def splitStep (R : Readers) (F : FastRPC σ) (admits : List String → Session → Bool)
    (s : Database × (σ × List Forwarded)) (e : Event) : (Database × (σ × List Forwarded)) × Reply :=
  let moved := step R F admits (Server.join s) e
  (moved.1.split,moved.2)

def Answered (reply : Reply) (answer : Json) : Prop := reply.answer = some (.ok answer)

section Local
variable {R : Readers} {o : SqlOutcome} {remoteMethod : String} {sess : Session} {payload : Json}
  {error : Option Json}

variable (error) in
theorem localRan {db : Database} {handled : Handled}
    (ran : dispatch R o remoteMethod sess payload db = some handled) :
    (runLocalRPCMethod R o remoteMethod sess payload error db).db = handled.db ∧
    ∀ j e, (runLocalRPCMethod R o remoteMethod sess payload error db).result = .ok (j,e) →
      j = handled.answer := by
  unfold runLocalRPCMethod
  simp only [ran,bind,Except.bind]
  refine ⟨trivial,fun j e done => ?_⟩
  split at done <;> try contradiction
  cases done
  rfl

variable (R error)

theorem localLocked {r : Request} (request : lockRequest? sess payload o remoteMethod = some r) (db : Database) :
    (runLocalRPCMethod R o remoteMethod sess payload error db).db = (serve R r db).2 ∧
    ∀ j e, (runLocalRPCMethod R o remoteMethod sess payload error db).result = .ok (j,e) →
      j = (serve R r db).1 := by
  unfold lockRequest? at request
  split_ifs at request with get create remove
  · subst get; cases request
    have ran : dispatch R o "stats.getMessages" sess payload db = some (getMessages o.read db) := by
      simp [dispatch]
    exact localRan error ran
  · subst create; cases request
    have ran : dispatch R o "control.createMessage" sess payload db =
        some (createMessage R o.write sess payload db) := by simp [dispatch]
    exact localRan error ran
  · subst remove; cases request
    have ran : dispatch R o "control.removeMessage" sess payload db =
        some (removeMessage R o.write sess payload db) := by simp [dispatch]
    exact localRan error ran

theorem localFree (free : lockRequest? sess payload o remoteMethod = none) (db other : Database) :
    runLocalRPCMethod R o remoteMethod sess payload error db =
      {runLocalRPCMethod R o remoteMethod sess payload error other with db := db} := by
  unfold lockRequest? at free
  split_ifs at free with get create remove
  by_cases add : remoteMethod = "stats.getAdd1"
  · subst add; rfl
  · simp only [runLocalRPCMethod,dispatch,if_neg add,if_neg get,if_neg create,if_neg remove]

end Local

section Division
variable (R : Readers) (F : FastRPC σ) (admits : List String → Session → Bool)

theorem webRequestCaller (o name sess jInput db fast) :
    webRequest R F admits o name sess jInput db fast =
      (caller? admits name sess).map fun caller => rmtCaller R F o caller sess jInput db fast := by
  unfold caller?
  by_cases stats : name = "remote.stats"
  · subst stats
    cases held : admits ["stats"] sess <;> simp [webRequest,methodsManagers,held,statMethods]
  · by_cases control : name = "remote.control"
    · subst control
      cases held : admits ["control"] sess <;> simp [webRequest,methodsManagers,held,controlMethods]
    · simp [webRequest,methodsManagers,stats,control,Ne.symm stats,Ne.symm control]

variable {R F admits}

theorem rmtCallerFree {o : SqlOutcome} {caller : String} {sess : Session} {jInput : Json}
    (free : ∀ payload, startsWith (R.asString jInput "remoteMethod" "") caller = true →
      R.asString jInput "target" "" = "DB" → jInput.get "payload" = .ok payload →
      lockRequest? sess payload o (R.asString jInput "remoteMethod" "") = none)
    (db other : Database) (fast : σ) :
    rmtCaller R F o caller sess jInput db fast = {rmtCaller R F o caller sess jInput other fast with db := db} := by
  cases good : startsWith (R.asString jInput "remoteMethod" "") caller with
  | false => simp only [rmtCaller,good,Bool.not_false,if_true]
  | true =>
    cases found : jInput.get "payload" with
    | error fault => simp only [rmtCaller,good,Bool.not_true,Bool.false_eq_true,if_false,found]
    | ok payload =>
      by_cases target : R.asString jInput "target" "" = "DB"
      · have alone := localFree R (some .null) (free payload good target found) db other
        simp only [rmtCaller,good,Bool.not_true,Bool.false_eq_true,if_false,found,if_pos target,alone]
        split <;> rfl
      · simp only [rmtCaller,good,Bool.not_true,Bool.false_eq_true,if_false,found,if_neg target]

theorem lockedWeb {e : Event} {r : Request} (request : locked? R admits e = some r) :
    ∃ name sess jInput o caller payload, e = .web name sess jInput o ∧
      caller? admits name sess = some caller ∧ startsWith (R.asString jInput "remoteMethod" "") caller = true ∧
      R.asString jInput "target" "" = "DB" ∧ jInput.get "payload" = .ok payload ∧
      lockRequest? sess payload o (R.asString jInput "remoteMethod" "") = some r := by
  cases e with
  | web name sess jInput o =>
    obtain ⟨caller,called,inner⟩ := Option.bind_eq_some_iff.mp request
    split at inner
    · rename_i ready
      split at inner
      · rename_i payload found
        exact ⟨name,sess,jInput,o,caller,payload,rfl,called,ready.1,ready.2,found,inner⟩
      · contradiction
    · contradiction
  | agentCall nodeName method payload => contradiction
  | connect sock => contradiction
  | ended sock ret => contradiction

theorem freeWeb {name : String} {sess : Session} {jInput : Json} {o : SqlOutcome} {caller : String}
    (free : locked? R admits (.web name sess jInput o) = none) (called : caller? admits name sess = some caller)
    (payload : Json) (good : startsWith (R.asString jInput "remoteMethod" "") caller = true)
    (target : R.asString jInput "target" "" = "DB") (found : jInput.get "payload" = .ok payload) :
    lockRequest? sess payload o (R.asString jInput "remoteMethod" "") = none := by
  simpa only [locked?,called,Option.bind_some,good,target,and_self,if_true,found] using free

theorem serverDivides (R : Readers) (F : FastRPC σ) (admits : List String → Session → Bool) :
    Divides (splitStep R F admits) (locked? R admits) (serve R) Answered where
  locked := by
    intro e r x y request
    obtain ⟨name,sess,jInput,o,caller,payload,rfl,called,good,target,found,inner⟩ := lockedWeb request
    obtain ⟨j,error,done,_,ran⟩ := rmtCallerLocal F o sess x y.1 found good target
    obtain ⟨table,answer⟩ := localLocked R (some .null) inner x
    have reached := webRequestCaller R F admits o name sess jInput x y.1
    rw [called,Option.map_some,ran,table,answer j _ done] at reached
    have moved := stepRan (s := Server.join (x,y)) reached
    simp only [splitStep,moved]
    exact ⟨by simp [Server.split,Server.join],rfl⟩
  free := by
    intro e x z y free
    cases e with
    | web name sess jInput o =>
      have reached (db : Database) := webRequestCaller R F admits o name sess jInput db y.1
      cases called : caller? admits name sess with
      | none =>
        simp only [called,Option.map_none] at reached
        have moved (db : Database) := stepRefused (s := Server.join (db,y)) (reached db)
        simp only [splitStep,moved]
        exact ⟨rfl,trivial⟩
      | some caller =>
        simp only [called,Option.map_some] at reached
        have alone := rmtCallerFree (F := F) (freeWeb free called) x z y.1
        have here := reached x
        rw [alone] at here
        simp only [splitStep,stepRan (s := Server.join (x,y)) here,stepRan (s := Server.join (z,y)) (reached z)]
        exact ⟨rfl,trivial⟩
    | agentCall nodeName method payload =>
      simp only [splitStep,step]
      split <;> exact ⟨rfl,rfl⟩
    | connect sock => exact ⟨rfl,rfl⟩
    | ended sock ret => exact ⟨rfl,rfl⟩

theorem splitFinal (R : Readers) (F : FastRPC σ) (admits : List String → Session → Bool) (s : Server σ)
    (events : List Event) :
    final (splitStep R F admits) s.split events = (final (step R F admits) s events).split := by
  induction events generalizing s with
  | nil => rfl
  | cons e rest ih => exact ih (step R F admits s e).1

end Division

structure ServerOrder {ι : Type} [DecidableEq ι] (R : Readers) (F : FastRPC σ)
    (admits : List String → Session → Bool) (ask : ι → Event) (req : ι → Request) (s : Server σ)
    (trace : List (Move ι Event)) (t : Both ι Database Body Json (σ × List Forwarded)) : Prop where
  server : final (step R F admits) s (serial ask trace) = ⟨t.lock.shared,t.rest.1,t.rest.2⟩
  threads : ∀ i a, t.lock.phase i = .returned a → ∃ early late, trace = early ++ .act i .acquire::late ∧
    (step R F admits (final (step R F admits) s (serial ask early)) (ask i)).2.answer = some (.ok a)
  events : ∀ early e late m, trace = early ++ .event e::late →
    Running (handlers R) req (splitStep R F admits) (locked? R admits)
      ⟨initial s.db,(s.fast,s.forwarded)⟩ early m →
    (step R F admits ⟨m.lock.shared,m.rest.1,m.rest.2⟩ e).2 =
      (step R F admits (final (step R F admits) s (serial ask early)) e).2

theorem serverSerialisable {ι : Type} [DecidableEq ι] (R : Readers) (F : FastRPC σ)
    (admits : List String → Session → Bool) (ask : ι → Event) (req : ι → Request)
    (asks : ∀ i, locked? R admits (ask i) = some (req i)) (s : Server σ) {trace : List (Move ι Event)}
    {t : Both ι Database Body Json (σ × List Forwarded)}
    (path : Running (handlers R) req (splitStep R F admits) (locked? R admits)
      ⟨initial s.db,(s.fast,s.forwarded)⟩ trace t)
    (finished : ∀ i, ∃ a, t.lock.phase i = .returned a) : ServerOrder R F admits ask req s trace t := by
  have order := serialTrace (serverDivides R F admits) (handlersServe R) asks path finished
  have follow (events : List Event) : final (splitStep R F admits) (s.db,(s.fast,s.forwarded)) events =
      (final (step R F admits) s events).split := splitFinal R F admits s events
  refine ⟨?_,fun i a ended => ?_,fun early e late m cut first => ?_⟩
  · have value := order.value
    rw [follow] at value
    exact congrArg Server.join value
  · obtain ⟨early,late,cut,answered⟩ := order.threads i a ended
    rw [follow] at answered
    exact ⟨early,late,cut,answered⟩
  · have same := order.events early e late m cut first
    rw [follow] at same
    exact same

def readRequest : Json :=
  .object [("target",.string "DB"),("remoteMethod",.string "stats.getMessages"),("payload",.null)]

def twoAsk : Bool → Event
  | false => .web "remote.control" ⟨"ana","1",["control"]⟩ postRequest ⟨⟨true,"",0,"t1",true⟩,.delivers⟩
  | true => .web "remote.stats" ⟨"eva","2",["stats"]⟩ readRequest ⟨⟨true,"",0,"t1",true⟩,.delivers⟩

def twoLocked : Bool → Request
  | false => .createMessage ⟨"ana","1",["control"]⟩ (.object [("message",.string "hello")]) ⟨true,"",0,"t1",true⟩
  | true => .getMessages ⟨"eva","2",["stats"]⟩ .null .delivers

-- An agent connects and is called while the reader is inside.
def twoTrace : List (Move Bool Event) :=
  [.act true .acquire,.event (.connect ⟨"n1","c","10.0.0.1",true,(true,true)⟩),.act true .advance,
   .event (.web "remote.stats" ⟨"ana","1",["stats"]⟩ ping ⟨⟨true,"",0,"t0",true⟩,.delivers⟩),
   .act true .advance,.act true .release,.act false .acquire,.act false .advance,.act false .release]

theorem serverSerialisableThere :
    ∃ t, ServerOrder Readers.plain FastRPC.registry admitsAll twoAsk twoLocked ⟨some Posts.empty,[],[]⟩
      twoTrace t := by
  have asks (i : Bool) : locked? Readers.plain admitsAll (twoAsk i) = some (twoLocked i) := by
    cases i <;> rfl
  have path : ∃ t, Running (handlers Readers.plain) twoLocked (splitStep Readers.plain FastRPC.registry admitsAll)
      (locked? Readers.plain admitsAll) ⟨initial (some Posts.empty),([],[])⟩ twoTrace t ∧
      ∀ i, ∃ a, t.lock.phase i = .returned a := by
    refine ⟨_,.cons (.act (.acquire rfl ?_)) (.cons (.event rfl) (.cons (.act (.advance rfl rfl))
      (.cons (.event rfl) (.cons (.act (.advance rfl rfl)) (.cons (.act (.release rfl rfl))
      (.cons (.act (.acquire rfl ?_)) (.cons (.act (.advance rfl rfl)) (.cons (.act (.release rfl rfl))
      (.nil _))))))))),?_⟩
    · intro j l inside
      cases j <;> contradiction
    · intro j l inside
      cases j <;> contradiction
    · intro i
      cases i <;> exact ⟨_,rfl⟩
  obtain ⟨t,path,finished⟩ := path
  exact ⟨t,serverSerialisable Readers.plain FastRPC.registry admitsAll twoAsk twoLocked asks
    ⟨some Posts.empty,[],[]⟩ path finished⟩
end HelloMantids
