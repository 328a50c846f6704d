import HelloMantids.BoardPage
import HelloMantids.Lineage

/-! Page 1 in browsers. Each tab shows a document, sends calls and takes their responses
in any order, late, or not at all; a response for a page that is gone does nothing. The
script that carries the calls is not part of the sources and stays a parameter. -/
namespace HelloMantids
open Dom Transition
variable {ι σ : Type}

/-- How `ajaxRemoteExecuteMethod` words a call and which responses it hands over. -/
structure Transport where
  request (mode target method : String) (payload : Json) : String × Json
  receive : Option (Except Fault Json) → Option Json

/-- What the page relies on: a call of a mode's method reaches that mode's entry with
its target and payload, and only an answer is handed over. -/
structure Transport.Documented (T : Transport) (R : Readers) : Prop where
  entry (mode target method payload) : (T.request mode target method payload).1 = "remote." ++ mode
  target (mode target method payload) : R.asString (T.request mode target method payload).2 "target" "" = target
  remoteMethod (mode target method payload) :
    R.asString (T.request mode target method payload).2 "remoteMethod" "" = mode ++ "." ++ method
  payload (mode target method payload) : (T.request mode target method payload).2.get "payload" = .ok payload
  receives {answer j} : T.receive answer = some j → answer = some (.ok j)

def Transport.plain : Transport where
  request mode target method payload :=
    ("remote." ++ mode,.object [("target",.string target),("remoteMethod",.string (mode ++ "." ++ method)),
      ("payload",payload)])
  receive
    | some (.ok j) => some j
    | _ => none

theorem Transport.plainDocumented : Transport.plain.Documented Readers.plain where
  entry _ _ _ _ := rfl
  target _ _ _ _ := rfl
  remoteMethod _ _ _ _ := rfl
  payload _ _ _ _ := rfl
  receives {answer j} got := by
    unfold plain at got
    dsimp only at got
    split at got
    · cases got; rfl
    · contradiction

/-! The page's calls. -/
inductive Callback where
  | drawMessages
  | f (error : String)

structure Asked where
  request : String × Json
  callback : Callback

namespace Page1

def requestPage1View (T : Transport) : Asked :=
  ⟨T.request "stats" "DB" "getMessages" (.object []),.drawMessages⟩

def addMessage (T : Transport) (message : String) : Asked :=
  ⟨T.request "control" "DB" "createMessage" (.object [("message",.string message)]),
    .f "Error adding new Message!"⟩

def removeMessage (T : Transport) (id : Nat) : Asked :=
  ⟨T.request "control" "DB" "removeMessage" (.object [("id",numberJson id)]),
    .f "Error removing new Message!"⟩

end Page1

inductive Asks (T : Transport) : Asked → Prop where
  | requestPage1View : Asks T (Page1.requestPage1View T)
  | addMessage (message) : Asks T (Page1.addMessage T message)
  | removeMessage (id) : Asks T (Page1.removeMessage T id)

-- What the code of a clicked button calls, if it is one of the page's own.
def clicked (T : Transport) (code typed : String) : Option Asked :=
  if code = "javascript:addMessage();" then some (Page1.addMessage T typed)
  else (removeCall code).map (Page1.removeMessage T)

structure Tab where
  load : Nat
  sess : Session
  doc : Nodes
  typed : String

structure Call (ι : Type) where
  tab : ι
  load : Nat
  sess : Session
  asked : Asked

structure Response (ι : Type) where
  call : Call ι
  answer : Option (Except Fault Json)

structure Web (ι σ : Type) where
  server : Server σ
  tabs : ι → Tab
  calls : List (Call ι)
  responses : List (Response ι)

inductive Happening (ι : Type) where
  | visit (i : ι) (sess : Session)
  | csrfReady (i : ι)
  | type (i : ι) (text : String)
  | click (i : ι) (k : Nat)
  | serve (n : Nat) (o : SqlOutcome)
  | respond (n : Nat)
  | callLost (n : Nat)
  | responseLost (n : Nat)
  | elsewhere (e : Event)

def Tab.reload (tab : Tab) (sess : Session) : Tab := ⟨tab.load + 1,sess,page1 .nil,""⟩

-- `r == true`; none for an answer that no writing method gives.
def equalsTrue? : Json → Option Bool
  | .null => some false
  | .bool b => some b
  | .int n => some (n == 1)
  | .uint n => some (n == 1)
  | _ => none

def handOver (result : Json) (tab : Tab) : Callback → Tab × Option String
  | .drawMessages =>
      match (listing? result).bind fun rows => drawMessages rows tab.doc with
      | some doc => ({tab with doc := doc},none)
      | none => (tab,none)
  | .f error =>
      match equalsTrue? result with
      | some true => (tab.reload tab.sess,none)
      | some false => (tab,some error)
      | none => (tab,none)

section Machine
variable [DecidableEq ι]

def Web.setTab (w : Web ι σ) (i : ι) (tab : Tab) : Web ι σ := {w with tabs := Function.update w.tabs i tab}

def Web.send (w : Web ι σ) (i : ι) (asked : Asked) : Web ι σ :=
  {w with calls := w.calls ++ [⟨i,(w.tabs i).load,(w.tabs i).sess,asked⟩]}

def Call.event (c : Call ι) (o : SqlOutcome) : Event := .web c.asked.request.1 c.sess c.asked.request.2 o

def happen (R : Readers) (F : FastRPC σ) (admits : List String → Session → Bool) (T : Transport) (w : Web ι σ) :
    Happening ι → Web ι σ × Option String
  | .visit i sess => (w.setTab i ((w.tabs i).reload sess),none)
  | .csrfReady i => (w.send i (Page1.requestPage1View T),none)
  | .type i text => (w.setTab i {w.tabs i with typed := text},none)
  | .click i k =>
      match ((w.tabs i).doc.values "onclick")[k]?.bind fun code => clicked T code (w.tabs i).typed with
      | some asked => (w.send i asked,none)
      | none => (w,none)
  | .serve n o =>
      match w.calls[n]? with
      | some c =>
          let served := step R F admits w.server (c.event o)
          ({w with server := served.1,calls := w.calls.eraseIdx n,
                   responses := w.responses ++ [⟨c,served.2.answer⟩]},none)
      | none => (w,none)
  | .respond n =>
      match w.responses[n]? with
      | some r =>
          let left := {w with responses := w.responses.eraseIdx n}
          match T.receive r.answer with
          | some result =>
              -- the callbacks of a page end with it
              if r.call.load = (w.tabs r.call.tab).load then
                let done := handOver result (w.tabs r.call.tab) r.call.asked.callback
                (left.setTab r.call.tab done.1,done.2)
              else (left,none)
          | none => (left,none)
      | none => (w,none)
  | .callLost n => ({w with calls := w.calls.eraseIdx n},none)
  | .responseLost n => ({w with responses := w.responses.eraseIdx n},none)
  | .elsewhere e => ({w with server := (step R F admits w.server e).1},none)

/-! What a happening can do, said once. -/
structure SamePage (tab next : Tab) : Prop where
  load : next.load = tab.load
  doc : next.doc = tab.doc

inductive Happened (R : Readers) (F : FastRPC σ) (admits : List String → Session → Bool) (T : Transport)
    (w v : Web ι σ) : Happening ι → Prop where
  | quiet {h} (server : v.server = w.server) (calls : v.calls ⊆ w.calls)
      (responses : v.responses ⊆ w.responses) (tabs : ∀ i, SamePage (w.tabs i) (v.tabs i)) :
      Happened R F admits T w v h
  | sent {h} (i asked) (asks : Asks T asked) (same : v = w.send i asked) : Happened R F admits T w v h
  | served (n o c) (found : w.calls[n]? = some c) (server : v.server = (step R F admits w.server (c.event o)).1)
      (calls : v.calls ⊆ w.calls)
      (responses : v.responses = w.responses ++ [⟨c,(step R F admits w.server (c.event o)).2.answer⟩])
      (tabs : v.tabs = w.tabs) : Happened R F admits T w v (.serve n o)
  | drew (n r result doc) (found : w.responses[n]? = some r) (received : T.receive r.answer = some result)
      (callback : r.call.asked.callback = .drawMessages) (load : r.call.load = (w.tabs r.call.tab).load)
      (drawn : ((listing? result).bind fun rows => drawMessages rows (w.tabs r.call.tab).doc) = some doc)
      (server : v.server = w.server) (calls : v.calls = w.calls) (responses : v.responses ⊆ w.responses)
      (tabs : v.tabs = Function.update w.tabs r.call.tab {w.tabs r.call.tab with doc := doc}) :
      Happened R F admits T w v (.respond n)
  | opened {h} (i sess) (server : v.server = w.server) (calls : v.calls = w.calls)
      (responses : v.responses ⊆ w.responses)
      (tabs : v.tabs = Function.update w.tabs i ((w.tabs i).reload sess)) : Happened R F admits T w v h
  | elsewhere (e) (same : v = {w with server := (step R F admits w.server e).1}) :
      Happened R F admits T w v (.elsewhere e)

section Steps
variable {R : Readers} {F : FastRPC σ} {admits : List String → Session → Bool} {T : Transport} {w : Web ι σ}

theorem clickedAsks {code typed : String} {asked : Asked} (call : clicked T code typed = some asked) :
    Asks T asked := by
  unfold clicked at call
  split at call
  · cases call; exact .addMessage typed
  · obtain ⟨id,_,rfl⟩ := Option.map_eq_some_iff.mp call
    exact .removeMessage id

theorem setSamePage {tab next : ι → Tab} {i : ι} {t : Tab} (same : SamePage (tab i) t)
    (set : next = Function.update tab i t) (j : ι) : SamePage (tab j) (next j) := by
  rw [set]
  by_cases here : j = i
  · subst here; rw [Function.update_self]; exact same
  · rw [Function.update_of_ne here]; exact ⟨rfl,rfl⟩

theorem respondHappened {n : Nat} {r : Response ι} (found : w.responses[n]? = some r) :
    Happened R F admits T w (happen R F admits T w (.respond n)).1 (.respond n) := by
  have fewer : w.responses.eraseIdx n ⊆ w.responses := List.eraseIdx_subset
  have same (i : ι) : SamePage (w.tabs i) (w.tabs i) := ⟨rfl,rfl⟩
  simp only [happen,found]
  cases received : T.receive r.answer with
  | none => exact .quiet rfl (List.Subset.refl _) fewer same
  | some result =>
    dsimp only
    split_ifs with load
    · cases callback : r.call.asked.callback with
      | drawMessages =>
        cases drawn : (listing? result).bind fun rows => drawMessages rows (w.tabs r.call.tab).doc with
        | some doc =>
          simp only [handOver,drawn]
          exact .drew n r result doc found received callback load drawn rfl rfl fewer rfl
        | none =>
          simp only [handOver,drawn]
          exact .quiet rfl (List.Subset.refl _) fewer (setSamePage ⟨rfl,rfl⟩ rfl)
      | f error =>
        cases truth : equalsTrue? result with
        | none =>
          simp only [handOver,truth]
          exact .quiet rfl (List.Subset.refl _) fewer (setSamePage ⟨rfl,rfl⟩ rfl)
        | some b =>
          simp only [handOver,truth]
          cases b with
          | true => exact .opened r.call.tab (w.tabs r.call.tab).sess rfl rfl fewer rfl
          | false => exact .quiet rfl (List.Subset.refl _) fewer (setSamePage ⟨rfl,rfl⟩ rfl)
    · exact .quiet rfl (List.Subset.refl _) fewer same

variable (R F admits T) in
theorem serveServer {n : Nat} {c : Call ι} (found : w.calls[n]? = some c) (o : SqlOutcome) :
    (happen R F admits T w (.serve n o)).1.server = (step R F admits w.server (c.event o)).1 := by
  simp only [happen,found]

theorem happened (R : Readers) (F : FastRPC σ) (admits : List String → Session → Bool) (T : Transport)
    (w : Web ι σ) (h : Happening ι) : Happened R F admits T w (happen R F admits T w h).1 h := by
  have same (i : ι) : SamePage (w.tabs i) (w.tabs i) := ⟨rfl,rfl⟩
  have calls : w.calls ⊆ w.calls := List.Subset.refl _
  have responses : w.responses ⊆ w.responses := List.Subset.refl _
  cases h with
  | visit i sess => exact .opened i sess rfl rfl responses rfl
  | csrfReady i => exact .sent i _ .requestPage1View rfl
  | type i text =>
    have typed : SamePage (w.tabs i) {w.tabs i with typed := text} := ⟨rfl,rfl⟩
    exact .quiet rfl calls responses (setSamePage typed rfl)
  | click i k =>
    simp only [happen]
    cases call : ((w.tabs i).doc.values "onclick")[k]?.bind fun code => clicked T code (w.tabs i).typed with
    | none => exact .quiet rfl calls responses same
    | some asked =>
      obtain ⟨code,_,asks⟩ := Option.bind_eq_some_iff.mp call
      exact .sent i asked (clickedAsks asks) rfl
  | serve n o =>
    simp only [happen]
    cases found : w.calls[n]? with
    | none => exact .quiet rfl calls responses same
    | some c => exact .served n o c found rfl List.eraseIdx_subset rfl rfl
  | respond n =>
    cases found : w.responses[n]? with
    | none =>
      simp only [happen,found]
      exact .quiet rfl calls responses same
    | some r => exact respondHappened found
  | callLost n => exact .quiet rfl List.eraseIdx_subset responses same
  | responseLost n => exact .quiet rfl calls List.eraseIdx_subset same
  | elsewhere e => exact .elsewhere e rfl

end Steps
end Machine
end HelloMantids
