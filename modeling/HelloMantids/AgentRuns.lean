import HelloMantids.System

/-! Agents over whole runs. A certificate name belongs to the connection that took it
first, until that connection ends: later peers of the same name are turned away, and
every call to the name goes to its holder. -/
namespace HelloMantids
open Transition
variable {σ : Type}

structure Holds (F : FastRPC σ) (fast : σ) (sock : Socket) : Prop where
  registered : Registered F fast
  live : (agentKey sock.cn,sock) ∈ F.live fast

section Connections
variable {F : FastRPC σ} (law : F.Documented) {fast : σ} {sock : Socket}
include law

theorem connectKeeps (other : Socket) {c : String × Socket} (live : c ∈ F.live fast) :
    c ∈ F.live (callbackOnRPCConnect F other fast).2 := by
  have processed : c ∈ F.live (F.processConnection fast other (agentKey other.cn)).2 := by
    by_cases taken : agentKey other.cn ∈ F.keys fast
    · rw [(law.refuses other taken).2]; exact live
    · rcases law.registers other taken with added | same
      · rw [added]; exact List.mem_cons_of_mem _ live
      · rw [same]; exact live
  simp only [callbackOnRPCConnect]
  split
  · split
    · exact processed
    · exact processed
  · exact live

theorem endedKeeps (holds : Holds F fast sock) {other : Socket} (different : other ≠ sock) (ret : Int) :
    (agentKey sock.cn,sock) ∈ F.live (connectionEnded F other ret fast).2 := by
  simp only [connectionEnded]
  split
  · rename_i served
    rw [law.terminates,List.mem_filter]
    refine ⟨holds.live,?_⟩
    -- under one key there is one connection
    have keys : agentKey sock.cn ≠ agentKey other.cn := by
      intro same
      have pair := List.inj_on_of_nodup_map holds.registered.single holds.live served same
      exact different (congrArg Prod.snd pair).symm
    simpa using keys
  · exact holds.live

theorem rmtCallerRoutes {R : Readers} {o : SqlOutcome} {caller : String} {sess : Session} {jInput : Json}
    {db : Database} {d : Delivery} (got : d ∈ (rmtCaller R F o caller sess jInput db fast).received) :
    (R.asString jInput "target" "",d.socket) ∈ F.live fast := by
  have ran := rmtCallerRan R F o caller sess jInput db fast
  generalize rmtCaller R F o caller sess jInput db fast = called at ran got
  cases ran with
  | refused bad => simp at got
  | fault bad => simp at got
  | here found good target ran => simp at got
  | away found good target ran =>
    subst ran
    exact (law.routes got).1

theorem webKeepsLive {R : Readers} {admits : List String → Session → Bool} {s : Server σ}
    (registered : Registered F s.fast) (name : String) (sess : Session) (jInput : Json) (o : SqlOutcome) :
    F.live (step R F admits s (.web name sess jInput o)).1.fast = F.live s.fast := by
  cases ran : webRequest R F admits o name sess jInput s.db s.fast with
  | none => rw [stepRefused ran]
  | some called =>
    rw [stepRan ran]
    rcases webRequestCases ran with ⟨_,_,rfl⟩ | ⟨_,_,rfl⟩
    · exact (rmtCallerReceives R law registered o "stats." sess jInput s.db).1
    · exact (rmtCallerReceives R law registered o "control." sess jInput s.db).1

theorem holdsStep {R : Readers} {admits : List String → Session → Bool} {s : Server σ} {e : Event}
    (holds : Holds F s.fast sock) (stays : ∀ ret, e ≠ .ended sock ret) :
    Holds F (step R F admits s e).1.fast sock := by
  cases e with
  | web name sess jInput o =>
    have live : F.live (step R F admits s (.web name sess jInput o)).1.fast = F.live s.fast :=
      webKeepsLive law holds.registered name sess jInput o
    exact ⟨registeredSame live holds.registered,by rw [live]; exact holds.live⟩
  | agentCall nodeName method payload => rw [stepAgentCall]; exact holds
  | connect other => exact ⟨connectRegistered law other holds.registered,connectKeeps law other holds.live⟩
  | ended other ret =>
    have different : other ≠ sock := fun same => stays ret (by rw [same])
    exact ⟨endedRegistered law other ret holds.registered,endedKeeps law holds different ret⟩

theorem callReaches {R : Readers} {admits : List String → Session → Bool} {s : Server σ}
    (holds : Holds F s.fast sock) (e : Event) :
    ∃ new, (step R F admits s e).1.forwarded = s.forwarded ++ new ∧
      ∀ f ∈ new, R.asString f.jInput "target" "" = agentKey sock.cn → f.delivery.socket = sock := by
  cases e with
  | web name sess jInput o =>
    cases ran : webRequest R F admits o name sess jInput s.db s.fast with
    | none => rw [stepRefused ran]; exact ⟨[],by simp,by simp⟩
    | some called =>
      rw [stepRan ran]
      refine ⟨_,rfl,fun f mem asked => ?_⟩
      obtain ⟨d,got,rfl⟩ := List.mem_map.mp mem
      have routed : (R.asString jInput "target" "",d.socket) ∈ F.live s.fast := by
        rcases webRequestCases ran with ⟨_,_,rfl⟩ | ⟨_,_,rfl⟩
        · exact rmtCallerRoutes law got
        · exact rmtCallerRoutes law got
      rw [asked] at routed
      exact congrArg Prod.snd (List.inj_on_of_nodup_map holds.registered.single routed holds.live rfl)
  | agentCall nodeName method payload => rw [stepAgentCall]; exact ⟨[],by simp,by simp⟩
  | connect other => exact ⟨[],by simp [step],by simp⟩
  | ended other ret => exact ⟨[],by simp [step],by simp⟩

theorem holdsRun {R : Readers} {admits : List String → Session → Bool} {s : Server σ}
    (holds : Holds F s.fast sock) {more : List Event} (stays : ∀ ret, Event.ended sock ret ∉ more) :
    Holds F (final (step R F admits) s more).fast sock ∧
    ∃ new, (final (step R F admits) s more).forwarded = s.forwarded ++ new ∧
      ∀ f ∈ new, R.asString f.jInput "target" "" = agentKey sock.cn → f.delivery.socket = sock := by
  induction more generalizing s with
  | nil => exact ⟨holds,[],by simp [final],by simp⟩
  | cons e rest ih =>
    have here : ∀ ret, e ≠ .ended sock ret := fun ret same => stays ret (by simp [same])
    obtain ⟨new,grown,reached⟩ := callReaches law (R := R) holds e
    obtain ⟨later,more,grownLater,reachedLater⟩ :=
      ih (holdsStep law holds here) fun ret mem => stays ret (List.mem_cons_of_mem _ mem)
    refine ⟨later,new ++ more,by rw [final,grownLater,grown,List.append_assoc],fun f mem => ?_⟩
    rcases List.mem_append.mp mem with first | second
    · exact reached f first
    · exact reachedLater f second

theorem latecomerRefused (holds : Holds F fast sock) {other : Socket} (named : other.cn = sock.cn)
    (passed : other.challenge = (true,true)) :
    F.live (callbackOnRPCConnect F other fast).2 = F.live fast ∧
    ⟨"callbackOnRPCConnect","",.err,"RPC Already Connected, giving up from %s for CN=%s",
      [other.remoteAddr,other.cn]⟩ ∈ (callbackOnRPCConnect F other fast).1 := by
  have taken : agentKey other.cn ∈ F.keys fast := named ▸ List.mem_map_of_mem holds.live
  obtain ⟨code,same⟩ := law.refuses other taken
  simp [callbackOnRPCConnect,passed,code,same]

theorem nameFreed (holds : Holds F fast sock) (ret : Int) :
    agentKey sock.cn ∉ F.keys (connectionEnded F sock ret fast).2 := by
  rw [connectionEnded,if_pos holds.live]
  intro mem
  obtain ⟨c,inside,same⟩ := List.mem_map.mp mem
  rw [law.terminates,List.mem_filter] at inside
  simp [same] at inside

end Connections

/-- From the moment a peer is registered until its connection ends it keeps its name:
it stays live, it alone gets the calls to the name, other peers of that name are turned
away, and the end frees the name. -/
structure KeepsName (R : Readers) (F : FastRPC σ) (admits : List String → Session → Bool)
    (s : Server σ) (more : List Event) (sock : Socket) : Prop where
  live : (agentKey sock.cn,sock) ∈ F.live (final (step R F admits) s more).fast
  calls : ∃ new, (final (step R F admits) s more).forwarded = s.forwarded ++ new ∧
    ∀ f ∈ new, R.asString f.jInput "target" "" = "AGENT." ++ sock.cn → f.delivery.socket = sock
  latecomers : ∀ other : Socket, other.cn = sock.cn → other.challenge = (true,true) →
    F.live (step R F admits (final (step R F admits) s more) (.connect other)).1.fast =
      F.live (final (step R F admits) s more).fast ∧
    ⟨"callbackOnRPCConnect","",.err,"RPC Already Connected, giving up from %s for CN=%s",
      [other.remoteAddr,other.cn]⟩ ∈
      (step R F admits (final (step R F admits) s more) (.connect other)).2.log
  freed : ∀ ret, agentKey sock.cn ∉
    F.keys (step R F admits (final (step R F admits) s more) (.ended sock ret)).1.fast

theorem registeredRun (R : Readers) {F : FastRPC σ} (law : F.Documented)
    (admits : List String → Session → Bool) {s : Server σ} (noAgents : F.live s.fast = [])
    (events : List Event) : Registered F (final (step R F admits) s events).fast := by
  refine invariantFinal (step R F admits) (I := fun t => Registered F t.fast) ?_ (registeredNone noAgents) events
  intro t e old
  cases e with
  | web name sess jInput o =>
    exact registeredSame (webKeepsLive law old name sess jInput o) old
  | agentCall nodeName method payload => rw [stepAgentCall]; exact old
  | connect sock => exact connectRegistered law sock old
  | ended sock ret => exact endedRegistered law sock ret old

theorem nameKeptWhileConnected (R : Readers) {F : FastRPC σ} (law : F.Documented)
    (admits : List String → Session → Bool) {s : Server σ} (noAgents : F.live s.fast = [])
    (past more : List Event) {sock : Socket}
    (registered : ("AGENT." ++ sock.cn,sock) ∈ F.live (final (step R F admits) s past).fast)
    (stays : ∀ ret, Event.ended sock ret ∉ more) :
    KeepsName R F admits (final (step R F admits) s past) more sock := by
  have holds : Holds F (final (step R F admits) s past).fast sock :=
    ⟨registeredRun R law admits noAgents past,registered⟩
  obtain ⟨still,calls⟩ := holdsRun law (R := R) holds stays
  exact ⟨still.live,calls,fun other named passed => latecomerRefused law still named passed,
    nameFreed law still⟩

def rival : List Event :=
  [.connect ⟨"n1","c","10.0.0.9",true,(true,true)⟩,
   .web "remote.stats" ⟨"ana","1",["stats"]⟩ ping ⟨⟨true,"",0,"t0",true⟩,.delivers⟩]

theorem nameKeptFromRival :
    KeepsName Readers.plain FastRPC.registry admitsAll
      (final (step Readers.plain FastRPC.registry admitsAll) idleServer
        [.connect ⟨"n1","c","10.0.0.1",true,(true,true)⟩])
      rival ⟨"n1","c","10.0.0.1",true,(true,true)⟩ := by
  refine nameKeptWhileConnected Readers.plain FastRPC.registryDocumented admitsAll rfl _ rival ?_ ?_
  · exact List.mem_singleton_self _
  · intro ret mem
    simp [rival] at mem

end HelloMantids
