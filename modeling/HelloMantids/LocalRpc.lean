import HelloMantids.Handlers

/-! The local RPC dispatcher and its error record. The record is written after the
call whatever the branch taken was, and a failed read reports like a complete one. -/
namespace HelloMantids

structure SqlOutcome where
  write : Exec
  read : ReadOutcome
  deriving DecidableEq, Repr

def localMethods : List String :=
  ["stats.getAdd1","stats.getMessages","control.createMessage","control.removeMessage"]

def dispatch (R : Readers) (o : SqlOutcome) (methodName : String) (sess : Session) (payload : Json)
    (db : Database) : Option Handled :=
  if methodName = "stats.getAdd1" then some (getAdd1 R payload db)
  else if methodName = "stats.getMessages" then some (getMessages o.read db)
  else if methodName = "control.createMessage" then some (createMessage R o.write sess payload db)
  else if methodName = "control.removeMessage" then some (removeMessage R o.write sess payload db)
  else none

def report (succeed : Bool) (errorId : Int) (errorMessage : String) :
    Option Json → Except Fault (Option Json)
  | none => .ok none
  | some error => do
      let error ← error.set "succeed" (.bool succeed)
      let error ← error.set "errorId" (.int errorId)
      let error ← error.set "errorMessage" (.string errorMessage)
      .ok (some error)

structure LocalCall where
  result : Except Fault (Json × Option Json)
  log : List LogLine
  db : Database

def runLocalRPCMethod (R : Readers) (o : SqlOutcome) (methodName : String) (sess : Session)
    (payload : Json) (error : Option Json) (db : Database) : LocalCall :=
  match dispatch R o methodName sess payload db with
  | some handled =>
      ⟨do
          let error ← report true 0 "Execution OK." error
          .ok (handled.answer,error),
        handled.log,handled.db⟩
  | none =>
      ⟨do
          let error ← report false 1 "Method Not Found." error
          -- the second `if (error)` stands outside the else branch
          let error ← report true 0 "Execution OK." error
          .ok (.null,error),
        [],db⟩

theorem dispatched (R o methodName sess payload db) :
    (dispatch R o methodName sess payload db).isSome = true ↔ methodName ∈ localMethods := by
  simp only [dispatch,localMethods,List.mem_cons,List.not_mem_nil,or_false]
  split_ifs <;> simp_all

inductive Ran (R : Readers) (o : SqlOutcome) (sess : Session) (payload : Json) (db : Database) :
    String → Handled → Prop where
  | getAdd1 : Ran R o sess payload db "stats.getAdd1" (getAdd1 R payload db)
  | getMessages : Ran R o sess payload db "stats.getMessages" (getMessages o.read db)
  | createMessage : Ran R o sess payload db "control.createMessage" (createMessage R o.write sess payload db)
  | removeMessage : Ran R o sess payload db "control.removeMessage" (removeMessage R o.write sess payload db)

theorem dispatchRan {R o methodName sess payload db handled}
    (ran : dispatch R o methodName sess payload db = some handled) :
    Ran R o sess payload db methodName handled := by
  unfold dispatch at ran
  split_ifs at ran with add get create remove
  · subst add; cases ran; exact .getAdd1
  · subst get; cases ran; exact .getMessages
  · subst create; cases ran; exact .createMessage
  · subst remove; cases ran; exact .removeMessage

theorem undispatched {R o methodName sess payload db} (unknown : methodName ∉ localMethods) :
    dispatch R o methodName sess payload db = none := by
  rw [← dispatched R o methodName sess payload db] at unknown
  simpa using unknown

theorem reportKeyed {e : Json} (keyed : e.Keyed) (succeed : Bool) (errorId : Int) (errorMessage : String) :
    ∃ f, report succeed errorId errorMessage (some e) = .ok (some f) ∧ f.Keyed ∧
      f.find? "succeed" = some (.bool succeed) ∧ f.find? "errorId" = some (.int errorId) ∧
      f.find? "errorMessage" = some (.string errorMessage) := by
  obtain ⟨members,_,written⟩ := Json.setKeyed keyed "succeed" (.bool succeed)
  refine ⟨.object (Json.put "errorMessage" (.string errorMessage)
    (Json.put "errorId" (.int errorId) (Json.put "succeed" (.bool succeed) members))),?_,rfl,?_,?_,?_⟩
  · simp only [report,written,bind,Except.bind,Json.setObject]
  · rw [Json.findObject,Json.lookupPutOther (by decide),Json.lookupPutOther (by decide),Json.lookupPutSame]
  · rw [Json.findObject,Json.lookupPutOther (by decide),Json.lookupPutSame]
  · rw [Json.findObject,Json.lookupPutSame]

theorem reportNotKeyed {e : Json} (bad : ¬ e.Keyed) (succeed : Bool) (errorId : Int) (errorMessage : String) :
    report succeed errorId errorMessage (some e) = .error .requiresObject := by
  simp only [report,Json.setNotKeyed bad,bind,Except.bind]

theorem recordAlwaysSucceeds (R o methodName sess payload) {e : Json} (keyed : e.Keyed) (db : Database) :
    ∃ answer f, (runLocalRPCMethod R o methodName sess payload (some e) db).result = .ok (answer,some f) ∧
      f.find? "succeed" = some (.bool true) ∧ f.find? "errorId" = some (.int 0) := by
  unfold runLocalRPCMethod
  cases found : dispatch R o methodName sess payload db with
  | some handled =>
    obtain ⟨f,written,_,succeed,errorId,_⟩ := reportKeyed keyed true 0 "Execution OK."
    exact ⟨handled.answer,f,by simp only [written,bind,Except.bind],succeed,errorId⟩
  | none =>
    obtain ⟨f,first,again,_⟩ := reportKeyed keyed false 1 "Method Not Found."
    obtain ⟨g,written,_,succeed,errorId,_⟩ := reportKeyed again true 0 "Execution OK."
    exact ⟨.null,g,by simp only [first,written,bind,Except.bind],succeed,errorId⟩

theorem recordFault (R o methodName sess payload) {e : Json} (bad : ¬ e.Keyed) (db : Database) :
    (runLocalRPCMethod R o methodName sess payload (some e) db).result = .error .requiresObject := by
  unfold runLocalRPCMethod
  split <;> simp only [reportNotKeyed bad,bind,Except.bind]

theorem nullPointerSame {R o methodName sess payload error db answer record}
    (ok : (runLocalRPCMethod R o methodName sess payload error db).result = .ok (answer,record)) :
    (runLocalRPCMethod R o methodName sess payload none db).result = .ok (answer,none) ∧
    (runLocalRPCMethod R o methodName sess payload none db).db =
      (runLocalRPCMethod R o methodName sess payload error db).db := by
  unfold runLocalRPCMethod at ok ⊢
  cases found : dispatch R o methodName sess payload db with
  | some handled =>
    simp only [found,bind,Except.bind] at ok ⊢
    split at ok <;> try contradiction
    cases ok
    exact ⟨rfl,trivial⟩
  | none =>
    simp only [found,bind,Except.bind] at ok ⊢
    split at ok <;> try contradiction
    split at ok <;> try contradiction
    cases ok
    exact ⟨rfl,trivial⟩

theorem unknownKeepsTable {R o methodName sess payload error db} (unknown : methodName ∉ localMethods) :
    (runLocalRPCMethod R o methodName sess payload error db).db = db := by
  simp only [runLocalRPCMethod,undispatched unknown]

/-! Reads. The answer and the record of one call of `stats.getMessages`. -/
def readCall (R : Readers) (w : Exec) (sess : Session) (payload record : Json) (o : ReadOutcome)
    (t : Posts) : Except Fault (Json × Option Json) :=
  (runLocalRPCMethod R ⟨w,o⟩ "stats.getMessages" sess payload (some record) (some t)).result

def Failing (o : ReadOutcome) (t : Posts) : Prop :=
  o = .selectFails ∨ ∃ k, o = .fetchFails k ∧ k < t.rows.length

/-- A failed read is told apart from every complete one, so that null, and a list
reported as a success, are the listing of every row of the table. -/
structure ReadHonest (R : Readers) (w : Exec) (sess : Session) (payload record : Json)
    (o : ReadOutcome) (t : Posts) : Prop where
  toldApart : Failing o t → ∀ p u, ¬ Failing p u →
    readCall R w sess payload record o t ≠ readCall R w sess payload record p u
  complete : ∀ answer e, readCall R w sess payload record o t = .ok (answer,some e) →
    (answer = .null ∨ (∃ rows, answer = .array rows) ∧ e.find? "succeed" = some (.bool true)) →
    ¬ Failing o t ∧ answer = listed (t.rows.map messageJson)

theorem dispatchRead (R : Readers) (o : SqlOutcome) (sess payload db) :
    dispatch R o "stats.getMessages" sess payload db = some (getMessages o.read db) := by
  simp [dispatch]

theorem readCallAnswer {R w sess payload record o t answer error}
    (ok : readCall R w sess payload record o t = .ok (answer,error)) :
    answer = listed ((delivered o (some t)).map messageJson) := by
  rw [← getMessagesAnswer]
  simp only [readCall,runLocalRPCMethod,dispatchRead,bind,Except.bind] at ok
  split at ok <;> try contradiction
  cases ok
  rfl

theorem wholeDelivered {o : ReadOutcome} {t : Posts} (whole : ¬ Failing o t) :
    delivered o (some t) = t.rows := by
  cases o with
  | selectFails => exact absurd (Or.inl rfl) whole
  | fetchFails k =>
    -- a fetch that breaks past the last row has delivered them all
    have past : t.rows.length ≤ k := by
      by_contra early
      exact whole (Or.inr ⟨k,rfl,by omega⟩)
    exact List.take_of_length_le past
  | delivers => rfl

theorem readCallRows {o p : ReadOutcome} {t u : Posts} (same : delivered o (some t) = delivered p (some u))
    (R w sess payload record) : readCall R w sess payload record o t = readCall R w sess payload record p u := by
  have answers : (getMessages o (some t)).answer = (getMessages p (some u)).answer := by
    rw [getMessagesAnswer,getMessagesAnswer,same]
  simp only [readCall,runLocalRPCMethod,dispatchRead,answers]

theorem failingPassesAsComplete {o : ReadOutcome} {t : Posts} (failing : Failing o t)
    (R w sess payload record) :
    ∃ u, ¬ Failing .delivers u ∧
      readCall R w sess payload record o t = readCall R w sess payload record .delivers u := by
  have whole (u : Posts) : ¬ Failing .delivers u := by simp [Failing]
  rcases failing with rfl | ⟨k,rfl,_⟩
  · exact ⟨t.take 0,whole _,readCallRows (by simp [delivered,Database.rows,Posts.take]) ..⟩
  · exact ⟨t.take k,whole _,readCallRows (by simp [delivered,Database.rows,Posts.take]) ..⟩

theorem readHonestExactly (R : Readers) (w : Exec) (sess : Session) (payload record : Json)
    (o : ReadOutcome) (t : Posts) :
    ReadHonest R w sess payload record o t ↔ ¬ Failing o t := by
  constructor
  · intro honest failing
    obtain ⟨u,whole,same⟩ := failingPassesAsComplete failing R w sess payload record
    exact honest.toldApart failing .delivers u whole same
  · intro whole
    refine ⟨fun failing => absurd failing whole,fun answer e ok _ => ⟨whole,?_⟩⟩
    rw [readCallAnswer ok,wholeDelivered whole]

theorem failedSelectReadsAsEmpty :
    ¬ ReadHonest Readers.plain ⟨true,"",0,"",true⟩ ⟨"ana","1",["stats"]⟩ .null .null .selectFails
      (Posts.empty.append ⟨1,"hello","ana","2024-01-01 10:00:00"⟩ (by decide) (by decide)) := by
  intro honest
  exact honest.toldApart (Or.inl rfl) .delivers Posts.empty (by simp [Failing]) rfl

end HelloMantids
