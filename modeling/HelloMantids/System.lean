import HelloMantids.WebEntry
import HelloMantids.Transition

/-! The server as one machine: web requests, agent connections and their ends, and the
calls agents make. What a caller admitted only to the read methods can change, and
which agent a forwarded call reaches, are facts about its runs. -/
namespace HelloMantids
open Transition
variable {σ : Type}

structure Forwarded where
  delivery : Delivery
  sess : Session
  jInput : Json

structure Server (σ : Type) where
  db : Database
  fast : σ
  forwarded : List Forwarded

inductive Event where
  | web (name : String) (sess : Session) (jInput : Json) (o : SqlOutcome)
  | agentCall (nodeName method : String) (payload : Json)
  | connect (sock : Socket)
  | ended (sock : Socket) (ret : Int)

structure Reply where
  answer : Option (Except Fault Json)
  log : List LogLine

def step (R : Readers) (F : FastRPC σ) (admits : List String → Session → Bool) (s : Server σ) :
    Event → Server σ × Reply
  | .web name sess jInput o =>
      match webRequest R F admits o name sess jInput s.db s.fast with
      | some called =>
          (⟨called.db,called.fast,s.forwarded ++ called.received.map (fun d => ⟨d,sess,jInput⟩)⟩,
            ⟨some called.answer,called.log⟩)
      | none => (s,⟨none,[]⟩)
  | .agentCall nodeName method payload =>
      match agentMethod R nodeName method payload with
      | some answered => (s,⟨some (.ok answered.1),answered.2⟩)
      | none => (s,⟨none,[]⟩)
  | .connect sock =>
      let accepted := callbackOnRPCConnect F sock s.fast
      ({s with fast := accepted.2},⟨none,accepted.1⟩)
  | .ended sock ret =>
      let closed := connectionEnded F sock ret s.fast
      ({s with fast := closed.2},⟨none,closed.1⟩)

section Steps
variable {R : Readers} {F : FastRPC σ} {admits : List String → Session → Bool} {s : Server σ}
  {name : String} {sess : Session} {jInput : Json} {o : SqlOutcome}

theorem stepRan {called : Called σ}
    (ran : webRequest R F admits o name sess jInput s.db s.fast = some called) :
    step R F admits s (.web name sess jInput o) =
      (⟨called.db,called.fast,s.forwarded ++ called.received.map (fun d => ⟨d,sess,jInput⟩)⟩,
        ⟨some called.answer,called.log⟩) := by
  simp only [step,ran]

theorem stepRefused (refused : webRequest R F admits o name sess jInput s.db s.fast = none) :
    step R F admits s (.web name sess jInput o) = (s,⟨none,[]⟩) := by
  simp only [step,refused]

theorem stepAgentCall (nodeName method : String) (payload : Json) :
    (step R F admits s (.agentCall nodeName method payload)).1 = s := by
  simp only [step]; split <;> rfl
end Steps

/-! Callers of the read methods. -/
def readOnly : Event → Bool
  | .web name _ _ _ => name == "remote.stats"
  | .agentCall .. => true
  | .connect _ => false
  | .ended .. => false

structure Observation where
  sess : Session
  jInput : Json
  answer : Option (Except Fault Json)
  before : Database
  after : Database

def observe (R : Readers) (x : Served (Server σ) Event Reply) : Option Observation :=
  match x.event with
  | .web name sess jInput _ =>
      if name = "remote.control" ∧ R.asString jInput "target" "" = "DB" then
        some ⟨sess,jInput,x.answer.answer,x.before.db,x.after.db⟩
      else none
  | _ => none

theorem readMethods {R o methodName sess payload db handled}
    (ran : dispatch R o methodName sess payload db = some handled)
    (good : startsWith methodName "stats." = true) :
    handled.db = db ∧ ∀ line ∈ handled.log, line.func ≠ "createMessage" ∧ line.func ≠ "removeMessage" := by
  cases dispatchRan ran with
  | getAdd1 => exact ⟨rfl,by simp [getAdd1]⟩
  | getMessages => exact ⟨rfl,by simp [getMessages]⟩
  -- the writing methods are under the other prefix
  | createMessage => exact absurd good (by decide)
  | removeMessage => exact absurd good (by decide)

theorem localReads (R o sess payload error db) {methodName} (good : startsWith methodName "stats." = true) :
    (runLocalRPCMethod R o methodName sess payload error db).db = db ∧
    ∀ line ∈ (runLocalRPCMethod R o methodName sess payload error db).log,
      line.func ≠ "createMessage" ∧ line.func ≠ "removeMessage" := by
  unfold runLocalRPCMethod
  split
  · rename_i handled ran; exact readMethods ran good
  · exact ⟨rfl,by simp⟩

theorem auditFunc (R sess remoteMethod jInput error) :
    (auditLine R sess remoteMethod jInput error).func = "rmtCaller" := by
  unfold auditLine; split <;> rfl

theorem statMethodsRead (R : Readers) (F : FastRPC σ) (o sess jInput db fast) :
    (statMethods R F o sess jInput db fast).db = db ∧
    ∀ line ∈ (statMethods R F o sess jInput db fast).log,
      line.func ≠ "createMessage" ∧ line.func ≠ "removeMessage" := by
  unfold statMethods
  have ran := rmtCallerRan R F o "stats." sess jInput db fast
  generalize rmtCaller R F o "stats." sess jInput db fast = called at ran ⊢
  cases ran with
  | refused bad => exact ⟨rfl,by simp⟩
  | fault bad => exact ⟨rfl,by simp⟩
  | here found good target ran =>
    subst ran
    obtain ⟨same,lines⟩ := localReads R o sess _ (some .null) db good
    refine ⟨same,fun line mem => ?_⟩
    rcases List.mem_append.mp mem with inner | last
    · exact lines line inner
    · rw [List.mem_singleton.mp last,auditFunc]; decide
  | away found good target ran =>
    refine ⟨rfl,fun line mem => ?_⟩
    rw [List.mem_singleton.mp mem,auditFunc]; decide

theorem controlMethodsLocal (R : Readers) (F : FastRPC σ) (o sess jInput db fast other) :
    (controlMethods R F o sess jInput db fast).db = (controlMethods R F o sess jInput db other).db ∧
    (R.asString jInput "target" "" = "DB" →
      (controlMethods R F o sess jInput db fast).answer = (controlMethods R F o sess jInput db other).answer) := by
  unfold controlMethods
  cases good : startsWith (R.asString jInput "remoteMethod" "") "control." with
  | false =>
    simp only [rmtCaller,good,Bool.not_false,if_true]
    exact ⟨trivial,fun _ => trivial⟩
  | true =>
    simp only [rmtCaller,good,Bool.not_true,Bool.false_eq_true,if_false]
    cases jInput.get "payload" with
    | error fault => exact ⟨rfl,fun _ => rfl⟩
    | ok payload =>
      by_cases here : R.asString jInput "target" "" = "DB"
      · simp only [if_pos here]
        split <;> exact ⟨rfl,fun _ => rfl⟩
      · simp only [if_neg here]
        exact ⟨trivial,fun no => absurd no here⟩

section Erased
variable (R : Readers) (F : FastRPC σ) (admits : List String → Session → Bool)

theorem readOnlySilent (s : Server σ) (e : Event) (hidden : readOnly e = true) :
    (step R F admits s e).1.db = s.db := by
  cases e with
  | web name sess jInput o =>
    have stats : name = "remote.stats" := by simpa [readOnly] using hidden
    cases ran : webRequest R F admits o name sess jInput s.db s.fast with
    | none => rw [stepRefused ran]
    | some called =>
      rw [stepRan ran]
      rcases webRequestCases ran with ⟨_,_,rfl⟩ | ⟨control,_,_⟩
      · exact (statMethodsRead R F o sess jInput s.db s.fast).1
      · rw [stats] at control; contradiction
  | agentCall nodeName method payload => rw [stepAgentCall]
  | connect sock => simp [readOnly] at hidden
  | ended sock ret => simp [readOnly] at hidden

theorem visibleStep {s t : Server σ} (same : s.db = t.db) (e : Event) (seen : readOnly e = false) :
    (step R F admits s e).1.db = (step R F admits t e).1.db ∧
    observe R (served (step R F admits) s e) = observe R (served (step R F admits) t e) := by
  cases e with
  | web name sess jInput o =>
    have notStats : name ≠ "remote.stats" := by simpa [readOnly] using seen
    by_cases control : name = "remote.control" ∧ admits ["control"] sess = true
    · obtain ⟨rfl,admitted⟩ := control
      have ran (u : Server σ) : webRequest R F admits o "remote.control" sess jInput u.db u.fast =
          some (controlMethods R F o sess jInput u.db u.fast) := by
        simp [webRequest,methodsManagers,admitted]
      obtain ⟨db,answer⟩ := controlMethodsLocal R F o sess jInput s.db s.fast t.fast
      simp only [served,observe,stepRan (ran s),stepRan (ran t),← same,← db,true_and]
      split
      · rename_i here; rw [answer here]
      · rfl
    · have refused (u : Server σ) : webRequest R F admits o name sess jInput u.db u.fast = none := by
        by_contra answered
        obtain ⟨called,ran⟩ := Option.ne_none_iff_exists'.mp answered
        rcases webRequestCases ran with ⟨stats,_,_⟩ | ⟨named,admitted,_⟩
        · exact notStats stats
        · exact control ⟨named,admitted⟩
      simp only [served,observe,stepRefused (refused s),stepRefused (refused t),same,true_and]
  | agentCall nodeName method payload => simp [readOnly] at seen
  | connect sock => exact ⟨same,rfl⟩
  | ended sock ret => exact ⟨same,rfl⟩

theorem readOnlyUnwound : Unwound (step R F admits) Server.db readOnly where
  silent := readOnlySilent R F admits
  same _ _ e seen same := (visibleStep R F admits same e seen).1

end Erased

theorem noWriteWithoutControl {R : Readers} {F : FastRPC σ} {admits : List String → Session → Bool}
    (admitted : AdmitsRequired admits) {sess : Session} (only : "control" ∉ sess.attribs)
    (s : Server σ) (name : String) (jInput : Json) (o : SqlOutcome) :
    (step R F admits s (.web name sess jInput o)).1.db = s.db ∧
    ∀ line ∈ (step R F admits s (.web name sess jInput o)).2.log,
      line.func ≠ "createMessage" ∧ line.func ≠ "removeMessage" := by
  cases ran : webRequest R F admits o name sess jInput s.db s.fast with
  | none => rw [stepRefused ran]; exact ⟨rfl,by simp⟩
  | some called =>
    rw [stepRan ran]
    rcases webRequestCases ran with ⟨_,_,rfl⟩ | ⟨_,control,_⟩
    · exact statMethodsRead R F o sess jInput s.db s.fast
    · exact absurd (admitted _ sess control "control" (by simp)) only

theorem readOnlyCallersPowerless (R : Readers) (F : FastRPC σ) {admits : List String → Session → Bool}
    (admitted : AdmitsRequired admits) :
    (∀ (s t : Server σ) (events : List Event), s.db = t.db →
      (final (step R F admits) s events).db =
        (final (step R F admits) t (visible readOnly events)).db ∧
      (history (step R F admits) s events).filterMap (observe R) =
        (history (step R F admits) t (visible readOnly events)).filterMap (observe R)) ∧
    (∀ (s : Server σ) name sess jInput o, "control" ∉ sess.attribs →
      (step R F admits s (.web name sess jInput o)).1.db = s.db ∧
      ∀ line ∈ (step R F admits s (.web name sess jInput o)).2.log,
        line.func ≠ "createMessage" ∧ line.func ≠ "removeMessage") := by
  refine ⟨fun s t events same => ⟨?_,?_⟩,fun s name sess jInput o only =>
    noWriteWithoutControl admitted only s name jInput o⟩
  · exact erasedFinal (readOnlyUnwound R F admits) same events
  · refine erasedObservations (readOnlyUnwound R F admits) (observe R) ?_ ?_ same events
    · intro u e hidden
      cases e with
      | web name sess jInput o =>
        have stats : name = "remote.stats" := by simpa [readOnly] using hidden
        simp [observe,served,stats]
      | agentCall nodeName method payload => rfl
      | connect sock => rfl
      | ended sock ret => rfl
    · intro u v e seen same
      exact (visibleStep R F admits same e seen).2

def postRequest : Json :=
  .object [("target",.string "DB"),("remoteMethod",.string "control.createMessage"),
    ("payload",.object [("message",.string "hello")])]

theorem readOnlyCallersPowerlessThere :
    (final (step Readers.plain FastRPC.registry admitsAll) ⟨some Posts.empty,[],[]⟩
      [.web "remote.stats" ⟨"eve","2",["stats"]⟩ postRequest ⟨⟨true,"",0,"t0",true⟩,.delivers⟩,
       .agentCall "n" "getHelloWorldMessage" .null,
       .web "remote.control" ⟨"ana","1",["control"]⟩ postRequest ⟨⟨true,"",0,"t1",true⟩,.delivers⟩]).db =
    (final (step Readers.plain FastRPC.registry admitsAll) ⟨some Posts.empty,[],[]⟩
      [.web "remote.control" ⟨"ana","1",["control"]⟩ postRequest ⟨⟨true,"",0,"t1",true⟩,.delivers⟩]).db ∧
    (step Readers.plain FastRPC.registry admitsAll ⟨some Posts.empty,[],[]⟩
      (.web "remote.stats" ⟨"eve","2",["stats"]⟩ postRequest ⟨⟨true,"",0,"t0",true⟩,.delivers⟩)).1.db =
      some Posts.empty :=
  ⟨((readOnlyCallersPowerless Readers.plain FastRPC.registry admitsAllRequired).1 _ _ _ rfl).1,
    ((readOnlyCallersPowerless Readers.plain FastRPC.registry admitsAllRequired).2 _ _ _ _ _ (by decide)).1⟩

/-! Forwarded calls. -/
structure Routed (R : Readers) (f : Forwarded) : Prop where
  attrib :
    (startsWith f.delivery.method "control." = true ∧ "control" ∈ f.sess.attribs) ∨
    (startsWith f.delivery.method "stats." = true ∧ "stats" ∈ f.sess.attribs)
  agent : R.asString f.jInput "target" "" = agentKey f.delivery.socket.cn
  method : f.delivery.method = R.asString f.jInput "remoteMethod" ""
  payload : f.jInput.get "payload" = .ok f.delivery.payload
  challenged : f.delivery.socket.challenge = (true,true)
  notLocal : R.asString f.jInput "target" "" ≠ "DB"

theorem rmtCallerReceives (R : Readers) {F : FastRPC σ} (law : F.Documented) {fast : σ}
    (registered : Registered F fast) (o caller sess jInput db) :
    F.live (rmtCaller R F o caller sess jInput db fast).fast = F.live fast ∧
    ∀ d ∈ (rmtCaller R F o caller sess jInput db fast).received,
      startsWith d.method caller = true ∧ R.asString jInput "target" "" = agentKey d.socket.cn ∧
      d.method = R.asString jInput "remoteMethod" "" ∧ jInput.get "payload" = .ok d.payload ∧
      d.socket.challenge = (true,true) ∧ R.asString jInput "target" "" ≠ "DB" := by
  have ran := rmtCallerRan R F o caller sess jInput db fast
  generalize rmtCaller R F o caller sess jInput db fast = called at ran ⊢
  cases ran with
  | refused bad => exact ⟨rfl,by simp⟩
  | fault bad => exact ⟨rfl,by simp⟩
  | here found good target ran => exact ⟨rfl,by simp⟩
  | away found good target ran =>
    subst ran
    refine ⟨law.calls ..,fun d mem => ?_⟩
    obtain ⟨live,method,same⟩ := law.routes mem
    exact ⟨by rw [method]; exact good,registered.named _ live,method,by rw [same]; exact found,
      registered.challenged _ live,target⟩

structure Confined (R : Readers) (F : FastRPC σ) (s : Server σ) : Prop where
  registered : Registered F s.fast
  routed : ∀ f ∈ s.forwarded, Routed R f

theorem stepConfined {R : Readers} {F : FastRPC σ} (law : F.Documented)
    {admits : List String → Session → Bool} (admitted : AdmitsRequired admits) (s : Server σ) (e : Event)
    (old : Confined R F s) : Confined R F (step R F admits s e).1 := by
  cases e with
  | web name sess jInput o =>
    cases ran : webRequest R F admits o name sess jInput s.db s.fast with
    | none => rw [stepRefused ran]; exact old
    | some called =>
      rw [stepRan ran]
      have entry : ∃ caller, called = rmtCaller R F o caller sess jInput s.db s.fast ∧
          ((caller = "control." ∧ "control" ∈ sess.attribs) ∨ (caller = "stats." ∧ "stats" ∈ sess.attribs)) := by
        rcases webRequestCases ran with ⟨_,holds,same⟩ | ⟨_,holds,same⟩
        · exact ⟨"stats.",same,Or.inr ⟨rfl,admitted _ sess holds _ (by simp)⟩⟩
        · exact ⟨"control.",same,Or.inl ⟨rfl,admitted _ sess holds _ (by simp)⟩⟩
      obtain ⟨caller,rfl,holds⟩ := entry
      obtain ⟨live,received⟩ := rmtCallerReceives R law old.registered o caller sess jInput s.db
      refine ⟨registeredSame live old.registered,fun f mem => ?_⟩
      rcases List.mem_append.mp mem with before | now
      · exact old.routed f before
      · obtain ⟨d,got,rfl⟩ := List.mem_map.mp now
        obtain ⟨pre,agent,method,payload,challenged,away⟩ := received d got
        refine ⟨?_,agent,method,payload,challenged,away⟩
        rcases holds with ⟨rfl,has⟩ | ⟨rfl,has⟩
        · exact Or.inl ⟨pre,has⟩
        · exact Or.inr ⟨pre,has⟩
  | agentCall nodeName method payload => rw [stepAgentCall]; exact old
  | connect sock => exact ⟨connectRegistered law sock old.registered,old.routed⟩
  | ended sock ret => exact ⟨endedRegistered law sock ret old.registered,old.routed⟩

theorem forwardedCallsConfined (R : Readers) {F : FastRPC σ} (law : F.Documented)
    {admits : List String → Session → Bool} (admitted : AdmitsRequired admits) {s : Server σ}
    (noAgents : F.live s.fast = []) (noCalls : s.forwarded = []) (events : List Event) :
    (∀ c ∈ F.live (final (step R F admits) s events).fast,
      c.2.challenge = (true,true) ∧ c.1 = "AGENT." ++ c.2.cn) ∧
    ((F.live (final (step R F admits) s events).fast).map (fun c => c.2.cn)).Nodup ∧
    (∀ f ∈ (final (step R F admits) s events).forwarded, Routed R f) ∧
    (∀ cn : String, "AGENT." ++ cn ≠ "DB") := by
  have confined : Confined R F (final (step R F admits) s events) :=
    invariantFinal (step R F admits) (stepConfined law admitted)
      ⟨registeredNone noAgents,by simp [noCalls]⟩ events
  refine ⟨fun c mem => ⟨confined.registered.challenged c mem,confined.registered.named c mem⟩,
    singleName confined.registered,confined.routed,fun cn same => ?_⟩
  have long := congrArg String.length same
  rw [String.length_append] at long
  have six : "AGENT.".length = 6 := rfl
  have two : "DB".length = 2 := rfl
  omega

def ping : Json :=
  .object [("target",.string "AGENT.n1"),("remoteMethod",.string "stats.ping"),("payload",.null)]

def idleServer : Server (List (String × Socket)) := ⟨none,[],[]⟩

def pingRun : List Event :=
  [.connect ⟨"n1","c","10.0.0.1",true,(true,true)⟩,
   .connect ⟨"n2","c","10.0.0.2",true,(true,false)⟩,
   .web "remote.stats" ⟨"ana","1",["stats"]⟩ ping ⟨⟨true,"",0,"t0",true⟩,.delivers⟩]

def pinged : Forwarded :=
  ⟨⟨⟨"n1","c","10.0.0.1",true,(true,true)⟩,"stats.ping",.null⟩,⟨"ana","1",["stats"]⟩,ping⟩

theorem forwardedCallsConfinedThere :
    (final (step Readers.plain FastRPC.registry admitsAll) idleServer pingRun).forwarded = [pinged] ∧
    Routed Readers.plain pinged := by
  have noAgents : FastRPC.registry.live idleServer.fast = [] := rfl
  have noCalls : idleServer.forwarded = [] := rfl
  have received : (final (step Readers.plain FastRPC.registry admitsAll) idleServer pingRun).forwarded =
      [pinged] := rfl
  refine ⟨received,(forwardedCallsConfined Readers.plain FastRPC.registryDocumented admitsAllRequired
    noAgents noCalls pingRun).2.2.1 pinged ?_⟩
  rw [received]
  exact List.mem_singleton_self pinged

end HelloMantids
