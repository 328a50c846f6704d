import HelloMantids.Browser
import HelloMantids.ServerThreads

/-! What any run of the browsers keeps: a page shows one state of the table, of a moment
at which it was already open, and a stale button removes the message beside it or none. -/
namespace HelloMantids
open Dom Transition
variable {ι σ : Type}

structure Opened (w : Web ι σ) : Prop where
  docs : ∀ i, (w.tabs i).doc = page1 .nil
  calls : w.calls = []
  responses : w.responses = []

/-! The page's calls at the server: what their handler does, or nothing. -/
inductive Handles (R : Readers) (r : Request) (admitted : Bool) (before after : Database)
    (answer : Option (Except Fault Json)) : Prop where
  | ran (held : admitted = true) (table : after = (serve R r before).2)
      (answered : answer = some (.ok (serve R r before).1))
  | refused (lacks : admitted = false) (table : after = before) (unanswered : answer = none)

section Server
variable {R : Readers} {T : Transport} {F : FastRPC σ} {admits : List String → Session → Bool}

theorem lockedServed {e : Event} {r : Request} (request : locked? R admits e = some r) (s : Server σ) :
    (step R F admits s e).1.db = (serve R r s.db).2 ∧
      (step R F admits s e).2.answer = some (.ok (serve R r s.db).1) := by
  obtain ⟨moved,answered⟩ := (serverDivides R F admits).locked s.db (s.fast,s.forwarded) request
  exact ⟨congrArg Prod.fst moved,answered⟩

theorem askedServed (law : T.Documented R) (caller : String) {mode method : String} {payload : Json}
    {sess : Session} {o : SqlOutcome} {r : Request}
    (entered : caller? admits ("remote." ++ mode) sess = if admits [mode] sess then some caller else none)
    (good : startsWith (mode ++ "." ++ method) caller = true)
    (request : lockRequest? sess payload o (mode ++ "." ++ method) = some r) (s : Server σ) :
    let served := step R F admits s
      (.web (T.request mode "DB" method payload).1 sess (T.request mode "DB" method payload).2 o)
    Handles R r (admits [mode] sess) s.db served.1.db served.2.answer := by
  intro served
  have entry := law.entry mode "DB" method payload
  cases held : admits [mode] sess with
  | false =>
    have refused : webRequest R F admits o (T.request mode "DB" method payload).1 sess
        (T.request mode "DB" method payload).2 s.db s.fast = none := by
      rw [webRequestCaller,entry,entered,held]
      rfl
    have nothing : served = (s,⟨none,[]⟩) := stepRefused refused
    exact .refused rfl (by rw [nothing]) (by rw [nothing])
  | true =>
    have locked : locked? R admits
        (.web (T.request mode "DB" method payload).1 sess (T.request mode "DB" method payload).2 o) = some r := by
      simp only [locked?,entry,entered,held,if_true,Option.bind_some,law.remoteMethod,good,law.target,
        and_self,law.payload,request]
    obtain ⟨table,answered⟩ := lockedServed (F := F) locked s
    exact .ran rfl table answered

section Calls
variable (F admits)
variable (law : T.Documented R) (s : Server σ) (sess : Session) (o : SqlOutcome)
include law

theorem viewServed :
    let asked := (Page1.requestPage1View T).request
    let served := step R F admits s (.web asked.1 sess asked.2 o)
    Handles R (.getMessages sess (.object []) o.read) (admits ["stats"] sess) s.db served.1.db
      served.2.answer :=
  askedServed law "stats." (by simp [caller?]) (by decide) (by simp [lockRequest?]) s

theorem addServed (message : String) :
    let asked := (Page1.addMessage T message).request
    let served := step R F admits s (.web asked.1 sess asked.2 o)
    Handles R (.createMessage sess (.object [("message",.string message)]) o.write) (admits ["control"] sess)
      s.db served.1.db served.2.answer :=
  askedServed law "control." (by simp [caller?]) (by decide) (by simp [lockRequest?]) s

theorem removeServed (id : Nat) :
    let asked := (Page1.removeMessage T id).request
    let served := step R F admits s (.web asked.1 sess asked.2 o)
    Handles R (.removeMessage sess (.object [("id",numberJson id)]) o.write) (admits ["control"] sess)
      s.db served.1.db served.2.answer :=
  askedServed law "control." (by simp [caller?]) (by decide) (by simp [lockRequest?]) s

end Calls
end Server

/-! Pages, calls and responses along a run. -/
section Runs
variable [DecidableEq ι] (R : Readers) (F : FastRPC σ) (admits : List String → Session → Bool) (T : Transport)

def CallsFit (T : Transport) (w : Web ι σ) : Prop :=
  ∀ c ∈ w.calls, Asks T c.asked ∧ c.load ≤ (w.tabs c.tab).load

theorem loadStep (w : Web ι σ) (h : Happening ι) (i : ι) :
    (w.tabs i).load ≤ ((happen R F admits T w h).1.tabs i).load := by
  have did := happened R F admits T w h
  generalize (happen R F admits T w h).1 = v at did ⊢
  cases did with
  | quiet server calls responses tabs => exact Nat.le_of_eq (tabs i).load.symm
  | sent j asked asks same => rw [same]; exact Nat.le_refl _
  | served n o c found server calls responses tabs => rw [tabs]
  | drew n r result doc found received callback load drawn server calls responses tabs =>
    rw [tabs]
    by_cases here : i = r.call.tab
    · rw [here,Function.update_self]
    · rw [Function.update_of_ne here]
  | opened j sess server calls responses tabs =>
    rw [tabs]
    by_cases here : i = j
    · rw [here,Function.update_self]; exact Nat.le_succ _
    · rw [Function.update_of_ne here]
  | elsewhere e same => rw [same]

theorem continuesHappen (w : Web ι σ) (h : Happening ι) :
    Continues w.server.db (happen R F admits T w h).1.server.db := by
  have did := happened R F admits T w h
  generalize (happen R F admits T w h).1 = v at did ⊢
  cases did with
  | quiet server calls responses tabs => rw [server]; exact continuesSame _
  | sent j asked asks same => rw [same]; exact continuesSame _
  | served n o c found server calls responses tabs => rw [server]; exact continuesStep R F admits w.server _
  | drew n r result doc found received callback load drawn server calls responses tabs =>
    rw [server]; exact continuesSame _
  | opened j sess server calls responses tabs => rw [server]; exact continuesSame _
  | elsewhere e same => rw [same]; exact continuesStep R F admits w.server e

theorem callsFitStep (w : Web ι σ) (h : Happening ι) (old : CallsFit T w) :
    CallsFit T (happen R F admits T w h).1 := by
  have grows (c : Call ι) (mem : c ∈ w.calls) : Asks T c.asked ∧
      c.load ≤ ((happen R F admits T w h).1.tabs c.tab).load :=
    ⟨(old c mem).1,Nat.le_trans (old c mem).2 (loadStep R F admits T w h c.tab)⟩
  have did := happened R F admits T w h
  generalize (happen R F admits T w h).1 = v at did grows ⊢
  intro c mem
  cases did with
  | quiet server calls responses tabs => exact grows c (calls mem)
  | sent i asked asks same =>
    subst same
    rcases List.mem_append.mp mem with before | new
    · exact grows c before
    · rw [List.mem_singleton.mp new]; exact ⟨asks,Nat.le_refl _⟩
  | served n o c' found server calls responses tabs => exact grows c (calls mem)
  | drew n r result doc found received callback load drawn server calls responses tabs =>
    exact grows c (calls ▸ mem)
  | opened i sess server calls responses tabs => exact grows c (calls ▸ mem)
  | elsewhere e same => subst same; exact grows c mem

variable {w : Web ι σ} {past events : List (Happening ι)}

theorem loadsGrow (before : past <+: events) (i : ι) :
    ((final (happen R F admits T) w past).tabs i).load ≤ ((final (happen R F admits T) w events).tabs i).load := by
  obtain ⟨more,rfl⟩ := before
  rw [finalAppend]
  exact relatedFinal (happen R F admits T) (fun v u => (v.tabs i).load ≤ (u.tabs i).load)
    (fun _ => Nat.le_refl _) Nat.le_trans (fun v h => loadStep R F admits T v h i) _ more

theorem continuesPast (before : past <+: events) :
    Continues (final (happen R F admits T) w past).server.db (final (happen R F admits T) w events).server.db := by
  obtain ⟨more,rfl⟩ := before
  rw [finalAppend]
  exact relatedFinal (happen R F admits T) (fun v u => Continues v.server.db u.server.db)
    (fun v => continuesSame v.server.db) continuesJoin (continuesHappen R F admits T) _ more

theorem callsFit (opened : Opened w) (events : List (Happening ι)) :
    CallsFit T (final (happen R F admits T) w events) :=
  invariantFinal (happen R F admits T) (callsFitStep R F admits T)
    (by simp [CallsFit,opened.calls]) events

/-- The response is what serving its call answered at that moment. -/
structure Origin (w : Web ι σ) (past : List (Happening ι)) (n : Nat) (o : SqlOutcome) (r : Response ι) : Prop where
  call : (final (happen R F admits T) w past).calls[n]? = some r.call
  answer : r.answer = (step R F admits (final (happen R F admits T) w past).server (r.call.event o)).2.answer

theorem responseOrigin (opened : Opened w) (events : List (Happening ι)) :
    ∀ r ∈ (final (happen R F admits T) w events).responses,
      ∃ past n o, past ++ [.serve n o] <+: events ∧ Origin R F admits T w past n o r := by
  induction events using List.reverseRecOn with
  | nil => intro r mem; simp [final,opened.responses] at mem
  | append_singleton events h ih =>
    have later (r : Response ι) (mem : r ∈ (final (happen R F admits T) w events).responses) :
        ∃ past n o, past ++ [.serve n o] <+: events ++ [h] ∧ Origin R F admits T w past n o r := by
      obtain ⟨past,n,o,before,origin⟩ := ih r mem
      exact ⟨past,n,o,before.trans (List.prefix_append _ _),origin⟩
    intro r mem
    rw [finalSnoc] at mem
    have did := happened R F admits T (final (happen R F admits T) w events) h
    generalize (happen R F admits T (final (happen R F admits T) w events) h).1 = v at did mem
    cases did with
    | quiet server calls responses tabs => exact later r (responses mem)
    | sent i asked asks same => subst same; exact later r mem
    | served n o c found server calls responses tabs =>
      rw [responses] at mem
      rcases List.mem_append.mp mem with before | new
      · exact later r before
      · rw [List.mem_singleton.mp new]
        exact ⟨events,n,o,List.prefix_refl _,found,rfl⟩
    | drew n r' result doc found received callback load drawn server calls responses tabs =>
      exact later r (responses mem)
    | opened i sess server calls responses tabs => exact later r (responses mem)
    | elsewhere e same => subst same; exact later r mem

/-- The document is what a read showed that the page asked for, served at a moment when
the page was open. -/
structure ReadShown (w : Web ι σ) (events : List (Happening ι)) (i : ι) (past : List (Happening ι)) (n : Nat)
    (o : SqlOutcome) : Prop where
  served : past ++ [.serve n o] <+: events
  asked : ∃ c, (final (happen R F admits T) w past).calls[n]? = some c ∧ c.tab = i ∧
    c.asked = Page1.requestPage1View T ∧ c.load = ((final (happen R F admits T) w events).tabs i).load
  load : ((final (happen R F admits T) w past).tabs i).load = ((final (happen R F admits T) w events).tabs i).load
  shown : showBoard o.read (final (happen R F admits T) w past).server.db =
    some ((final (happen R F admits T) w events).tabs i).doc

def ShownSince (w : Web ι σ) (events : List (Happening ι)) (i : ι) : Prop :=
  ∃ past n o, ReadShown R F admits T w events i past n o

theorem drawnSince (law : T.Documented R) (opened : Opened w) {r : Response ι} {result : Json} {doc : Nodes}
    (listed : r ∈ (final (happen R F admits T) w events).responses) (received : T.receive r.answer = some result)
    (callback : r.call.asked.callback = .drawMessages)
    (load : r.call.load = ((final (happen R F admits T) w events).tabs r.call.tab).load)
    (page : ∃ list, ((final (happen R F admits T) w events).tabs r.call.tab).doc = page1 list)
    (drawn : ((listing? result).bind fun rows =>
      drawMessages rows ((final (happen R F admits T) w events).tabs r.call.tab).doc) = some doc) :
    ∃ past n o, past ++ [.serve n o] <+: events ∧
      (final (happen R F admits T) w past).calls[n]? = some r.call ∧ r.call.asked = Page1.requestPage1View T ∧
      ((final (happen R F admits T) w past).tabs r.call.tab).load = r.call.load ∧
      showBoard o.read (final (happen R F admits T) w past).server.db = some doc := by
  obtain ⟨past,n,o,before,origin⟩ := responseOrigin R F admits T opened events r listed
  have reach : past <+: events := (List.prefix_append _ _).trans before
  obtain ⟨asks,sent⟩ := callsFit R F admits T opened past r.call (List.mem_of_getElem? origin.call)
  have open_ := Nat.le_antisymm (load ▸ loadsGrow R F admits T reach r.call.tab) sent
  have answer := law.receives received
  rw [origin.answer] at answer
  have view : r.call.asked = Page1.requestPage1View T := by
    generalize r.call.asked = asked at asks callback
    cases asks with
    | requestPage1View => rfl
    | addMessage message => contradiction
    | removeMessage id => contradiction
  refine ⟨past,n,o,before,origin.call,view,open_,?_⟩
  have handled := viewServed F admits law (final (happen R F admits T) w past).server
    r.call.sess o
  rw [Call.event,view] at answer
  obtain ⟨list,page⟩ := page
  cases handled with
  | ran held table answered =>
    rw [answered] at answer
    cases answer
    simp only [page,drawAgain _ list] at drawn
    exact drawn
  | refused lacks table unanswered => rw [unanswered] at answer; contradiction

theorem shownSince (law : T.Documented R) (opened : Opened w) (events : List (Happening ι)) (i : ι) :
    ((final (happen R F admits T) w events).tabs i).doc = page1 .nil ∨ ShownSince R F admits T w events i := by
  induction events using List.reverseRecOn with
  | nil => exact Or.inl (opened.docs i)
  | append_singleton events h ih =>
    have kept (same : SamePage ((final (happen R F admits T) w events).tabs i)
        ((final (happen R F admits T) w (events ++ [h])).tabs i)) :
        ((final (happen R F admits T) w (events ++ [h])).tabs i).doc = page1 .nil ∨
          ShownSince R F admits T w (events ++ [h]) i := by
      rw [same.doc]
      refine ih.imp_right fun ⟨past,n,o,read⟩ => ⟨past,n,o,?_⟩
      exact ⟨read.served.trans (List.prefix_append _ _),by rw [same.load]; exact read.asked,
        by rw [same.load]; exact read.load,by rw [same.doc]; exact read.shown⟩
    have did := happened R F admits T (final (happen R F admits T) w events) h
    rw [← finalSnoc] at did
    cases did with
    | quiet server calls responses tabs => exact kept (tabs i)
    | sent j asked asks same => exact kept (by rw [same]; exact ⟨rfl,rfl⟩)
    | served n o c found server calls responses tabs => exact kept (by rw [tabs]; exact ⟨rfl,rfl⟩)
    | drew n r result doc found received callback load drawn server calls responses tabs =>
      by_cases here : i = r.call.tab
      · subst here
        have page : ∃ list, ((final (happen R F admits T) w events).tabs r.call.tab).doc = page1 list :=
          ih.elim (fun blank => ⟨.nil,blank⟩) fun ⟨_,_,_,read⟩ => shownPage read.shown
        obtain ⟨past,n,o,before,call,view,open_,shown⟩ := drawnSince R F admits T law opened
          (List.mem_of_getElem? found) received callback load page drawn
        refine Or.inr ⟨past,n,o,before.trans (List.prefix_append _ _),⟨r.call,call,rfl,view,?_⟩,?_,?_⟩
        · rw [tabs,Function.update_self]; exact load
        · rw [tabs,Function.update_self]; exact open_.trans load
        · rw [tabs,Function.update_self]; exact shown
      · exact kept (by rw [tabs,Function.update_of_ne here]; exact ⟨rfl,rfl⟩)
    | opened j sess server calls responses tabs =>
      by_cases here : i = j
      · exact Or.inl (by rw [tabs,here,Function.update_self]; rfl)
      · exact kept (by rw [tabs,Function.update_of_ne here]; exact ⟨rfl,rfl⟩)
    | elsewhere e same => exact kept (by rw [same]; exact ⟨rfl,rfl⟩)

end Runs

/-! What the user sees, and what a click does. -/
section Pages
variable [DecidableEq ι] {R : Readers} {T : Transport} (F : FastRPC σ) (admits : List String → Session → Bool)
  {w : Web ι σ}

theorem drawsListing {n : Nat} {r : Response ι} {o : ReadOutcome} {db : Database}
    (arrived : w.responses[n]? = some r) (callback : r.call.asked.callback = .drawMessages)
    (load : r.call.load = (w.tabs r.call.tab).load) (received : T.receive r.answer = some (getMessages o db).answer)
    (page : ∃ list, (w.tabs r.call.tab).doc = page1 list) :
    showBoard o db = some ((happen R F admits T w (.respond n)).1.tabs r.call.tab).doc := by
  obtain ⟨list,page⟩ := page
  obtain ⟨doc,shown⟩ : ∃ doc, showBoard o db = some doc := by
    by_cases empty : delivered o db = []
    · exact ⟨_,(boardShown o db).1 empty⟩
    · obtain ⟨doc,_,_,shown,_⟩ := (boardShown o db).2 empty
      exact ⟨doc,shown⟩
  have drawn : ((listing? (getMessages o db).answer).bind fun rows =>
      drawMessages rows (w.tabs r.call.tab).doc) = some doc := by
    rw [← shown,showBoard,page]
    simp only [drawAgain _ list]
  rw [shown]
  simp only [happen,arrived,received,if_pos load,handOver,callback,drawn,Web.setTab,Function.update_self]

theorem lastingRow {earlier past events : List (Happening ι)} {i : ι} {r : Row} (prior : earlier <+: events)
    (before : past <+: events)
    (older : ((final (happen R F admits T) w earlier).tabs i).load < ((final (happen R F admits T) w past).tabs i).load)
    (mem : r ∈ (final (happen R F admits T) w earlier).server.db.rows)
    (still : r ∈ (final (happen R F admits T) w events).server.db.rows) :
    r ∈ (final (happen R F admits T) w past).server.db.rows := by
  rcases List.prefix_or_prefix_of_prefix prior before with first | last
  · exact continuesBetween (continuesPast R F admits T first) (continuesPast R F admits T before) mem still
  · have loads := loadsGrow R F admits T (w := w) last i
    omega

/-- A page that is drawn shows what one read of the table delivered, served since the page
was opened; if that read was complete, every message that was on the board before the
page was opened and still is has its block. -/
structure PageShows (R : Readers) (F : FastRPC σ) (admits : List String → Session → Bool) (T : Transport)
    (w : Web ι σ) (events : List (Happening ι)) (i : ι) (past : List (Happening ι)) (n : Nat) (o : SqlOutcome) :
    Prop extends ReadShown R F admits T w events i past n o where
  drawn : Drawn o.read (final (happen R F admits T) w past).server.db
    ((final (happen R F admits T) w events).tabs i).doc
  lasting : o.read = .delivers → ∀ earlier r, earlier <+: events →
    ((final (happen R F admits T) w earlier).tabs i).load < ((final (happen R F admits T) w events).tabs i).load →
    r ∈ (final (happen R F admits T) w earlier).server.db.rows →
    r ∈ (final (happen R F admits T) w events).server.db.rows →
    ∃ block, Displays ((final (happen R F admits T) w events).tabs i).doc block r

theorem pageShowsBoard (law : T.Documented R) (opened : Opened w) (events : List (Happening ι)) (i : ι) :
    ((final (happen R F admits T) w events).tabs i).doc = page1 .nil ∨
    ∃ past n o, PageShows R F admits T w events i past n o := by
  refine (shownSince R F admits T law opened events i).imp_right fun ⟨past,n,o,read⟩ =>
    ⟨past,n,o,read,shownDrawn read.shown,fun whole earlier r prior older mem still => ?_⟩
  have before : past <+: events := (List.prefix_append _ _).trans read.served
  exact (shownDrawn read.shown).whole whole r (lastingRow F admits prior before (read.load ▸ older) mem still)

theorem afterReload {past more since : List (Happening ι)} {h : Happening ι} {i : ι} {load : Nat}
    (page : load = ((final (happen R F admits T) w past).tabs i).load)
    (now : ((final (happen R F admits T) w (past ++ [h] ++ more)).tabs i).load = load + 1)
    (before : since <+: past ++ [h] ++ more)
    (same : ((final (happen R F admits T) w since).tabs i).load =
      ((final (happen R F admits T) w (past ++ [h] ++ more)).tabs i).load) : past ++ [h] <+: since := by
  rcases List.prefix_or_prefix_of_prefix (List.prefix_append (past ++ [h]) more) before with later | earlier
  · exact later
  · rcases List.prefix_concat_iff.mp earlier with here | older
    · exact here ▸ List.prefix_refl _
    · have loads := loadsGrow R F admits T (w := w) older i
      omega

def oneTab : Web Unit (List (String × Socket)) :=
  ⟨onePostUp,fun _ => ⟨0,⟨"eva","2",["stats","control"]⟩,page1 .nil,""⟩,[],[]⟩

theorem oneTabOpened : Opened oneTab := ⟨fun _ => rfl,rfl,rfl⟩

def delivering : SqlOutcome := ⟨⟨true,"",0,"t1",true⟩,.delivers⟩

def drawnRun : List (Happening Unit) := [.csrfReady (),.serve 0 delivering,.respond 0]

theorem drawnRunShows : showBoard .delivers onePostUp.db =
    some ((final (happen Readers.plain FastRPC.registry admitsAll Transport.plain) oneTab drawnRun).tabs ()).doc :=
  drawsListing (w := final (happen Readers.plain FastRPC.registry admitsAll Transport.plain) oneTab
    [.csrfReady (),.serve 0 delivering]) FastRPC.registry admitsAll rfl rfl rfl rfl ⟨.nil,rfl⟩

theorem drawnRunDisplays : ∃ block, Displays
    ((final (happen Readers.plain FastRPC.registry admitsAll Transport.plain) oneTab drawnRun).tabs ()).doc block
    ⟨1,"hello","ana","t0"⟩ := displaysDelivered drawnRunShows (List.mem_singleton_self _)

def visitRun : List (Happening Unit) := .visit () ⟨"eva","2",["stats","control"]⟩::drawnRun

theorem visitRunShows : showBoard .delivers onePostUp.db =
    some ((final (happen Readers.plain FastRPC.registry admitsAll Transport.plain) oneTab visitRun).tabs ()).doc :=
  drawsListing (w := final (happen Readers.plain FastRPC.registry admitsAll Transport.plain) oneTab
    (visitRun.take 3)) FastRPC.registry admitsAll rfl rfl rfl rfl ⟨.nil,rfl⟩

theorem visitRunServed {past : List (Happening Unit)} {n : Nat} {o : SqlOutcome}
    (served : past ++ [.serve n o] <+: visitRun) : o = delivering := by
  obtain ⟨rest,split⟩ := served
  rcases past with _ | ⟨_,_ | ⟨_,_ | ⟨_,_ | ⟨_,past⟩⟩⟩⟩ <;> simp [visitRun,drawnRun] at split
  exact split.2.2.1.2

theorem pageShowsBoardThere :
    ∃ past n o, PageShows Readers.plain FastRPC.registry admitsAll Transport.plain oneTab visitRun () past n o ∧
      ∃ block, Displays
        ((final (happen Readers.plain FastRPC.registry admitsAll Transport.plain) oneTab visitRun).tabs ()).doc
        block ⟨1,"hello","ana","t0"⟩ := by
  rcases pageShowsBoard FastRPC.registry admitsAll Transport.plainDocumented oneTabOpened visitRun () with
    blank | ⟨past,n,o,shows⟩
  · obtain ⟨block,displays⟩ := displaysDelivered visitRunShows (List.mem_singleton_self _)
    obtain ⟨k,code,button,removes⟩ := displayedButton displays
    rw [blank] at button
    cases (fixedButtons code (List.mem_of_getElem? button)).symm.trans removes
  · have whole : o.read = .delivers := by rw [visitRunServed shows.served]; rfl
    have opened := loadsGrow Readers.plain FastRPC.registry admitsAll Transport.plain (w := oneTab)
      (List.take_prefix 1 visitRun) ()
    exact ⟨past,n,o,shows,shows.lasting whole [] ⟨1,"hello","ana","t0"⟩ List.nil_prefix opened
      (List.mem_singleton_self _) (List.mem_singleton_self _)⟩

theorem removesShown (read : R.Documented) {db now : Database} {r : Row} (mem : r ∈ db.rows)
    (small : r.id ≤ maxInteger) (since : Continues db now) (o : Exec) (sess : Session) :
    let after := (serve R (.removeMessage sess (.object [("id",numberJson r.id)]) o) now).2
    (o.accepted = true → ∀ q, q ∈ after.rows ↔ q ∈ now.rows ∧ q ≠ r) ∧ (o.accepted = false → after = now) := by
  intro after
  have id := sentId read small
  have table : after = (removeMessage R o sess (.object [("id",numberJson r.id)]) now).db := rfl
  constructor
  · intro accepted q
    rw [table,removeAccepted accepted,id,deletedRows]
    refine and_congr_right fun inside => not_congr ⟨continuesRow since mem inside,?_⟩
    intro same
    rw [same]
  · intro refused
    rw [table]
    simp [removeMessage,query,refused]

/-- A removal asked from a page, however old, removes the message shown beside its
button and no other, or nothing where it is not admitted or the statement is refused. -/
theorem staleClickSafe (read : R.Documented) (law : T.Documented R) (opened : Opened w)
    (past more : List (Happening ι)) {i : ι} {k : Nat} {code : String} {id : Nat}
    (button : (((final (happen R F admits T) w past).tabs i).doc.values "onclick")[k]? = some code)
    (removes : removeCall code = some id) :
    ∃ r block, Displays ((final (happen R F admits T) w past).tabs i).doc block r ∧
      code ∈ block.values "onclick" ∧
      final (happen R F admits T) w (past ++ [.click i k]) =
        (final (happen R F admits T) w past).send i (Page1.removeMessage T id) ∧
      ∀ n o c before, before = final (happen R F admits T) w (past ++ [.click i k] ++ more) →
        before.calls[n]? = some c → c.asked = Page1.removeMessage T id →
        let after := (happen R F admits T before (.serve n o)).1
        (admits ["control"] c.sess = true ∧ o.write.accepted = true →
          ∀ q, q ∈ after.server.db.rows ↔ q ∈ before.server.db.rows ∧ q ≠ r) ∧
        (¬ (admits ["control"] c.sess = true ∧ o.write.accepted = true) →
          after.server.db = before.server.db) := by
  have mem := List.mem_of_getElem? button
  rcases shownSince R F admits T law opened past i with blank | ⟨early,_,o,drawn⟩
  · rw [blank] at mem
    rw [fixedButtons code mem] at removes
    contradiction
  · obtain ⟨r,block,listed,displays,own,same⟩ := displaysButton drawn.shown mem removes
    have reach : early <+: past := (List.prefix_append _ _).trans drawn.served
    subst same
    refine ⟨r,block,displays,own,?_,?_⟩
    · have other : code ≠ "javascript:addMessage();" := by
        rintro rfl
        have nothing : removeCall "javascript:addMessage();" = none := by decide +kernel
        rw [nothing] at removes
        contradiction
      rw [finalSnoc]
      simp only [happen,button,Option.bind_some,clicked,if_neg other,removes,Option.map_some]
    · rintro n o' c before rfl found asked after
      have since := continuesPast R F admits T (w := w)
        ((reach.trans (List.prefix_append _ [.click i k])).trans (List.prefix_append _ more))
      have moved := serveServer R F admits T found o'
      have handled := removeServed F admits law
        (final (happen R F admits T) w (past ++ [.click i k] ++ more)).server c.sess o' r.id
      rw [Call.event,asked] at moved
      change after.server = _ at moved
      rw [moved]
      cases handled with
      | ran held table answered =>
        obtain ⟨gone,kept⟩ := removesShown read (deliveredRows listed) (deliveredSmall o.read _ r listed) since
          o'.write c.sess
        rw [table]
        exact ⟨fun taken => gone taken.2,fun no => kept (by simpa [held] using no)⟩
      | refused lacks table unanswered =>
        rw [table]
        exact ⟨fun taken => absurd taken.1 (by simp [lacks]),fun _ => rfl⟩

theorem respondSess (n : Nat) (i : ι) :
    ((happen R F admits T w (.respond n)).1.tabs i).sess = (w.tabs i).sess := by
  have handed (result : Json) (tab : Tab) (callback : Callback) :
      (handOver result tab callback).1.sess = tab.sess := by
    cases callback <;> simp only [handOver] <;> split <;> rfl
  cases found : w.responses[n]? with
  | none => simp only [happen,found]
  | some r =>
    cases received : T.receive r.answer with
    | none => simp only [happen,found,received]
    | some result =>
      simp only [happen,found,received]
      split <;> try rfl
      by_cases here : i = r.call.tab
      · simp only [Web.setTab,here,Function.update_self,handed]
      · simp only [Web.setTab,Function.update_of_ne here]

theorem drawnRunSess :
    ((final (happen Readers.plain FastRPC.registry admitsAll Transport.plain) oneTab drawnRun).tabs ()).sess =
      ⟨"eva","2",["stats","control"]⟩ := by
  have drawing : drawnRun = drawnRun.take 2 ++ [.respond 0] := rfl
  rw [drawing,finalSnoc,respondSess]
  rfl

-- Another message is posted between the click and its serving.
def clickedLate (k : Nat) : Web Unit (List (String × Socket)) :=
  final (happen Readers.plain FastRPC.registry admitsAll Transport.plain) oneTab
    (drawnRun ++ [.click () k] ++ [.elsewhere secondPost])

theorem staleClickSafeThere :
    ∃ k r block, Displays
      ((final (happen Readers.plain FastRPC.registry admitsAll Transport.plain) oneTab drawnRun).tabs ()).doc
      block r ∧ ⟨2,"again","eva","t2"⟩ ∈ (clickedLate k).server.db.rows ∧
      ∀ q, q ∈ (happen Readers.plain FastRPC.registry admitsAll Transport.plain (clickedLate k)
          (.serve 0 delivering)).1.server.db.rows ↔ q ∈ (clickedLate k).server.db.rows ∧ q ≠ r := by
  obtain ⟨block,displays⟩ := drawnRunDisplays
  obtain ⟨k,code,button,removes⟩ := displayedButton displays
  obtain ⟨r,other,shown,own,sent,safe⟩ := staleClickSafe FastRPC.registry admitsAll Readers.plainDocumented
    Transport.plainDocumented oneTabOpened drawnRun [.elsewhere secondPost] button removes
  have idle : (final (happen Readers.plain FastRPC.registry admitsAll Transport.plain) oneTab drawnRun).calls = [] :=
    List.isEmpty_iff.mp (by decide +kernel)
  have held : admitsAll ["control"]
      ((final (happen Readers.plain FastRPC.registry admitsAll Transport.plain) oneTab drawnRun).tabs ()).sess = true := by
    rw [drawnRunSess]
    rfl
  have unmoved : (final (happen Readers.plain FastRPC.registry admitsAll Transport.plain) oneTab drawnRun).server =
      onePostUp := rfl
  have posted : (⟨2,"again","eva","t2"⟩ : Row) ∈
      (step Readers.plain FastRPC.registry admitsAll onePostUp secondPost).1.db.rows := by
    decide +kernel
  rw [← unmoved] at posted
  have late : clickedLate k = (happen Readers.plain FastRPC.registry admitsAll Transport.plain
      ((final (happen Readers.plain FastRPC.registry admitsAll Transport.plain) oneTab drawnRun).send ()
        (Page1.removeMessage Transport.plain 1)) (.elsewhere secondPost)).1 := by
    rw [clickedLate,finalSnoc,sent]
  -- the page itself is not looked into any more
  obtain ⟨drawn,same⟩ : ∃ drawn,
      final (happen Readers.plain FastRPC.registry admitsAll Transport.plain) oneTab drawnRun = drawn := ⟨_,rfl⟩
  rw [same] at shown idle held posted late ⊢
  have call : (clickedLate k).calls[0]? =
      some ⟨(),(drawn.tabs ()).load,(drawn.tabs ()).sess,Page1.removeMessage Transport.plain 1⟩ := by
    rw [late]
    simp only [happen,Web.send,idle]
    rfl
  have removed := (safe 0 delivering _ (clickedLate k) rfl call rfl).1 ⟨held,rfl⟩
  refine ⟨k,r,other,shown,?_,removed⟩
  rw [late]
  exact posted

/-- Adding a message, once answered true, opens the page anew, and what a read draws there
later saw the message unless it has been removed by then. -/
structure OwnPost (R : Readers) (F : FastRPC σ) (admits : List String → Session → Bool) (T : Transport)
    (w : Web ι σ) (past : List (Happening ι)) (n : Nat) (r : Response ι) (text : String) (m : Row) : Prop where
  message : m.message = varchar 1024 text
  createdBy : m.createdBy = varchar 256 r.call.sess.authUser
  stored : ∃ early k o, early ++ [.serve k o] <+: past ∧ Origin R F admits T w early k o r ∧
    m ∉ (final (happen R F admits T) w early).server.db.rows ∧
    m ∈ (final (happen R F admits T) w (early ++ [.serve k o])).server.db.rows
  reloaded : (final (happen R F admits T) w (past ++ [.respond n])).tabs r.call.tab =
    ((final (happen R F admits T) w past).tabs r.call.tab).reload
      ((final (happen R F admits T) w past).tabs r.call.tab).sess
  shown : ∀ more now, now = final (happen R F admits T) w (past ++ [.respond n] ++ more) →
    (now.tabs r.call.tab).load = r.call.load + 1 → m ∈ now.server.db.rows →
    (now.tabs r.call.tab).doc = page1 .nil ∨
    ∃ since k o, past ++ [.respond n] <+: since ∧
      ReadShown R F admits T w (past ++ [.respond n] ++ more) r.call.tab since k o ∧
      m ∈ (final (happen R F admits T) w since).server.db.rows ∧
      (o.read = .delivers → ∃ block, Displays (now.tabs r.call.tab).doc block m)

theorem addedRow (read : R.Documented) {text : String} {o : Exec} {sess : Session} {db : Database}
    (ok : (serve R (.createMessage sess (.object [("message",.string text)]) o) db).1 = .bool true) :
    ∃ m : Row, m.message = varchar 1024 text ∧ m.createdBy = varchar 256 sess.authUser ∧ m ∉ db.rows ∧
      m ∈ (serve R (.createMessage sess (.object [("message",.string text)]) o) db).2.rows := by
  have found : (Json.object [("message",.string text)]).find? "message" = some (.string text) := rfl
  have message := read.string "" found
  obtain ⟨t,u,before,after,rows,_⟩ := createSucceeded ok
  rw [message] at rows
  refine ⟨newPost (t.auto + o.skip) o text sess.authUser,rfl,rfl,fun mem => ?_,?_⟩
  · have given := rowsGiven mem
    rw [before] at given
    simp only [Database.next,Option.map_some,Option.getD_some,newPostId] at given
    omega
  · have left : (serve R (.createMessage sess (.object [("message",.string text)]) o) db).2 = some u := after
    rw [left]
    change _ ∈ u.rows
    rw [rows]
    exact List.mem_append_right _ (List.mem_singleton_self _)

def addRun : List (Happening Unit) := [.type () "hi",.click () 1,.serve 0 delivering]

def hiAdded : Response Unit :=
  ⟨⟨(),0,⟨"eva","2",["stats","control"]⟩,Page1.addMessage Transport.plain "hi"⟩,some (.ok (.bool true))⟩

/-! The page reloads or alerts as the table was changed or not. -/
inductive Verdict (o : Exec) (before after : Database) : Json → Prop where
  | stored (accepted : o.accepted = true) : Verdict o before after (.bool true)
  | refused (same : after = before) : Verdict o before after (.bool false)

theorem acceptedQuery {o : Exec} {db : Database} {statement : Statement}
    (ok : (query o db statement).succeeded = true) : o.accepted = true := by
  cases accepted : o.accepted with
  | true => rfl
  | false => simp [query,accepted] at ok

theorem createVerdict (R : Readers) (o : Exec) (sess : Session) (payload : Json) (db : Database) :
    Verdict o db (createMessage R o sess payload db).db (createMessage R o sess payload db).answer := by
  rcases createAnswers R o sess payload db with ok | failed
  · have ran := (createQuery R o sess payload db).1
    rw [ok] at ran ⊢
    exact .stored (acceptedQuery (Json.bool.inj ran).symm)
  · rw [failed]
    exact .refused (createFailed failed)

theorem removeVerdict (R : Readers) (o : Exec) (sess : Session) (payload : Json) (db : Database) :
    Verdict o db (removeMessage R o sess payload db).db (removeMessage R o sess payload db).answer := by
  rcases removeAnswers R o sess payload db with ok | failed
  · have ran := (removeQuery R o sess payload db).1
    rw [ok] at ran ⊢
    exact .stored (acceptedQuery (Json.bool.inj ran).symm)
  · rw [failed]
    exact .refused (removeFailed failed)

omit [DecidableEq ι] in
theorem writesHandled (law : T.Documented R) {c : Call ι} (asks : Asks T c.asked) {error : String}
    (writes : c.asked.callback = .f error) (s : Server σ) (o : SqlOutcome) {j : Json}
    (answer : (step R F admits s (c.event o)).2.answer = some (.ok j)) :
    Verdict o.write s.db (step R F admits s (c.event o)).1.db j := by
  rw [Call.event] at answer ⊢
  generalize c.asked = asked at asks writes answer ⊢
  cases asks with
  | requestPage1View => contradiction
  | addMessage message =>
    cases addServed F admits law s c.sess o message with
    | ran held table answered =>
      rw [answered] at answer
      cases answer
      rw [table]
      exact createVerdict R o.write c.sess _ s.db
    | refused lacks table unanswered => rw [unanswered] at answer; contradiction
  | removeMessage id =>
    cases removeServed F admits law s c.sess o id with
    | ran held table answered =>
      rw [answered] at answer
      cases answer
      rw [table]
      exact removeVerdict R o.write c.sess _ s.db
    | refused lacks table unanswered => rw [unanswered] at answer; contradiction

/-- What the user is told of a write: the page opens anew and the statement was taken,
or the call's own error is alerted and serving the call left the table as it was. -/
structure Told (R : Readers) (F : FastRPC σ) (admits : List String → Session → Bool) (T : Transport)
    (w : Web ι σ) (past : List (Happening ι)) (n : Nat) (r : Response ι) (error : String)
    (early : List (Happening ι)) (k : Nat) (o : SqlOutcome) : Prop where
  served : early ++ [.serve k o] <+: past
  origin : Origin R F admits T w early k o r
  told : (o.write.accepted = true ∧
      (happen R F admits T (final (happen R F admits T) w past) (.respond n)).2 = none ∧
      (final (happen R F admits T) w (past ++ [.respond n])).tabs r.call.tab =
        ((final (happen R F admits T) w past).tabs r.call.tab).reload
          ((final (happen R F admits T) w past).tabs r.call.tab).sess) ∨
    ((final (happen R F admits T) w (early ++ [.serve k o])).server.db =
        (final (happen R F admits T) w early).server.db ∧
      (happen R F admits T (final (happen R F admits T) w past) (.respond n)).2 = some error ∧
      (final (happen R F admits T) w (past ++ [.respond n])).tabs = (final (happen R F admits T) w past).tabs)

def refusing : SqlOutcome := ⟨⟨false,"gone away",0,"t1",true⟩,.delivers⟩

def hiRefused : Response Unit :=
  ⟨⟨(),0,⟨"eva","2",["stats","control"]⟩,Page1.addMessage Transport.plain "hi"⟩,some (.ok (.bool false))⟩

end Pages
end HelloMantids
