import HelloMantids.LocalRpc
import Mathlib.Data.List.Nodup

/-! The RPC server side: agents connect over TLS, pass the mutual challenge and are
registered with the FastRPC library under a key built from their certificate name.
The library is a parameter under its documented behaviour. -/
namespace HelloMantids

structure Socket where
  cn : String
  component : String
  remoteAddr : String
  secure : Bool
  challenge : Bool × Bool
  deriving DecidableEq, Repr

structure Delivery where
  socket : Socket
  method : String
  payload : Json

structure Remote (σ : Type) where
  answer : Json
  error : Json
  received : List Delivery
  fast : σ

/-- `processConnection` has no return code while the connection is served. -/
structure FastRPC (σ : Type) where
  live : σ → List (String × Socket)
  processConnection : σ → Socket → String → Option Int × σ
  terminate : σ → String → σ
  runRemoteRPCMethod : σ → String → String → Json → Json → Remote σ

variable {σ : Type}

def FastRPC.keys (F : FastRPC σ) (s : σ) : List String := (F.live s).map Prod.fst

/-- A key names one connection: a second one is refused with -2. A call goes to the
connection registered under its key, with the method and payload it was given. -/
structure FastRPC.Documented (F : FastRPC σ) : Prop where
  registers {s key} (sock) : key ∉ F.keys s →
    F.live (F.processConnection s sock key).2 = (key,sock)::F.live s ∨
    F.live (F.processConnection s sock key).2 = F.live s
  refuses {s key} (sock) : key ∈ F.keys s →
    (F.processConnection s sock key).1 = some (-2) ∧
    F.live (F.processConnection s sock key).2 = F.live s
  terminates (s key) : F.live (F.terminate s key) = (F.live s).filter (fun c => c.1 ≠ key)
  calls (s key method payload error) :
    F.live (F.runRemoteRPCMethod s key method payload error).fast = F.live s
  routes {s key method payload error d} :
    d ∈ (F.runRemoteRPCMethod s key method payload error).received →
    (key,d.socket) ∈ F.live s ∧ d.method = method ∧ d.payload = payload

def FastRPC.registry : FastRPC (List (String × Socket)) where
  live s := s
  processConnection s sock key :=
    if key ∈ s.map Prod.fst then (some (-2),s) else (none,(key,sock)::s)
  terminate s key := s.filter (fun c => c.1 ≠ key)
  runRemoteRPCMethod s key method payload _ :=
    ⟨.null,.object [("succeed",.bool (key ∈ s.map Prod.fst))],
      (s.filter (fun c => c.1 = key)).map (fun c => ⟨c.2,method,payload⟩),s⟩

theorem FastRPC.registryDocumented : FastRPC.registry.Documented where
  registers {s key} sock fresh := by
    have no : key ∉ s.map Prod.fst := fresh
    exact Or.inl (by simp only [registry,if_neg no])
  refuses {s key} sock taken := by
    have yes : key ∈ s.map Prod.fst := taken
    simp only [registry,if_pos yes,and_self]
  terminates s key := rfl
  calls s key method payload error := rfl
  routes {s key method payload error d} mem := by
    obtain ⟨c,inside,rfl⟩ := List.mem_map.mp mem
    obtain ⟨live,same⟩ := List.mem_filter.mp inside
    have named : c.1 = key := by simpa using same
    subst named
    exact ⟨live,rfl,rfl⟩

def agentKey (peerCNName : String) : String := "AGENT." ++ peerCNName

def secureText (secure : Bool) : String := if secure then "secure " else ""

def terminatedLine (sock : Socket) (ret : Int) : LogLine :=
  ⟨"callbackOnRPCConnect","",.info,"RPC connection from %s (CN=%s, COMPONENT=%s) Terminated with %d.",
    [sock.remoteAddr,sock.cn,sock.component,toString ret]⟩

-- The callback up to the point where it returns or serves the connection.
def callbackOnRPCConnect (F : FastRPC σ) (sock : Socket) (fast : σ) : List LogLine × σ :=
  let incoming : LogLine :=
    ⟨"callbackOnRPCConnect","",.info,"Incoming %sRPC connection from (IP=%s,CN=%s,COMPONENT=%s)",
      [secureText sock.secure,sock.remoteAddr,sock.cn,sock.component]⟩
  if sock.challenge = (true,true) then
    let processed := F.processConnection fast sock (agentKey sock.cn)
    match processed.1 with
    | none => ([incoming],processed.2)
    | some ret =>
        let already : List LogLine :=
          if ret = -2 then
            [⟨"callbackOnRPCConnect","",.err,"RPC Already Connected, giving up from %s for CN=%s",
              [sock.remoteAddr,sock.cn]⟩]
          else []
        (incoming::already ++ [terminatedLine sock ret],processed.2)
  else
    ([incoming,
      ⟨"callbackOnRPCConnect","",.err,"Invalid API Key from RPC connector %s, AGENT.%s",
        [sock.remoteAddr,sock.cn]⟩,
      terminatedLine sock (-144)],fast)

def connectionEnded (F : FastRPC σ) (sock : Socket) (ret : Int) (fast : σ) : List LogLine × σ :=
  if (agentKey sock.cn,sock) ∈ F.live fast then
    ([terminatedLine sock ret],F.terminate fast (agentKey sock.cn))
  else ([],fast)

/-! The methods registered for agents. Neither touches the database. -/
def getHelloWorldMessage (R : Readers) (nodeName : String) (payload : Json) : Json × List LogLine :=
  (.string "Hello World",
    [⟨"getHelloWorldMessage","",.err,"Node '%s' requesting hello world with payload=%s...",
      [nodeName,R.toStyledString payload]⟩])

def pingNotFound : Json × List LogLine := (.bool true,[])

def agentMethod (R : Readers) (nodeName method : String) (payload : Json) : Option (Json × List LogLine) :=
  if method = "getHelloWorldMessage" then some (getHelloWorldMessage R nodeName payload)
  else if method = "_pingNotFound_" then some pingNotFound
  else none

/-- Every live connection passed the challenge both ways and bears its own name's key;
no key, and so no name, is live twice. -/
structure Registered (F : FastRPC σ) (fast : σ) : Prop where
  challenged : ∀ c ∈ F.live fast, c.2.challenge = (true,true)
  named : ∀ c ∈ F.live fast, c.1 = agentKey c.2.cn
  single : (F.keys fast).Nodup

theorem registeredNone {F : FastRPC σ} {fast : σ} (empty : F.live fast = []) : Registered F fast where
  challenged := by simp [empty]
  named := by simp [empty]
  single := by simp [FastRPC.keys,empty]

theorem registeredSame {F : FastRPC σ} {fast next : σ} (same : F.live next = F.live fast)
    (old : Registered F fast) : Registered F next where
  challenged := by rw [same]; exact old.challenged
  named := by rw [same]; exact old.named
  single := by rw [FastRPC.keys,same]; exact old.single

theorem connectRegistered {F : FastRPC σ} (law : F.Documented) (sock : Socket) {fast : σ}
    (old : Registered F fast) : Registered F (callbackOnRPCConnect F sock fast).2 := by
  have processed : sock.challenge = (true,true) →
      Registered F (F.processConnection fast sock (agentKey sock.cn)).2 := by
    intro passed
    by_cases taken : agentKey sock.cn ∈ F.keys fast
    · exact registeredSame (law.refuses sock taken).2 old
    · rcases law.registers sock taken with added | same
      · refine ⟨?_,?_,?_⟩
        · rw [added]; simpa [passed] using old.challenged
        · rw [added]; simpa using old.named
        · rw [FastRPC.keys,added]; exact List.nodup_cons.mpr ⟨taken,old.single⟩
      · exact registeredSame same old
  simp only [callbackOnRPCConnect]
  split
  · rename_i passed
    split
    · exact processed passed
    · exact processed passed
  · exact old

theorem endedRegistered {F : FastRPC σ} (law : F.Documented) (sock : Socket) (ret : Int) {fast : σ}
    (old : Registered F fast) : Registered F (connectionEnded F sock ret fast).2 := by
  simp only [connectionEnded]
  split
  · refine ⟨?_,?_,?_⟩
    · rw [law.terminates]; exact fun c mem => old.challenged c (List.mem_of_mem_filter mem)
    · rw [law.terminates]; exact fun c mem => old.named c (List.mem_of_mem_filter mem)
    · rw [FastRPC.keys,law.terminates]; exact old.single.sublist (List.filter_sublist.map Prod.fst)
  · exact old

theorem singleName {F : FastRPC σ} {fast : σ} (registered : Registered F fast) :
    ((F.live fast).map (fun c => c.2.cn)).Nodup := by
  have keys : F.keys fast = ((F.live fast).map (fun c => c.2.cn)).map agentKey := by
    rw [FastRPC.keys,List.map_map]
    exact List.map_congr_left registered.named
  exact (keys ▸ registered.single).of_map agentKey

end HelloMantids
