import HelloMantids.Agents

/-! The web entries: the prefix check of `rmtCaller`, the split between the local
database and the agents, the audit line, and the registration under attributes. -/
namespace HelloMantids
variable {σ : Type}

structure Called (σ : Type) where
  answer : Except Fault Json
  log : List LogLine
  db : Database
  fast : σ
  received : List Delivery

def startsWith (text pre : String) : Bool := pre.toList.isPrefixOf text.toList

def executedLine (R : Readers) (sess : Session) (remoteMethod : String) (jInput : Json) : LogLine :=
  ⟨"rmtCaller",sess.userID,.info,"Remote RPC Method '%s' Executed at '%s'.",
    [remoteMethod,R.asCString jInput "target" ""]⟩

def errorLine (R : Readers) (sess : Session) (remoteMethod : String) (jInput error : Json) : LogLine :=
  ⟨"rmtCaller",sess.userID,.err,"Error (%d) Executing Remote RPC Method '%s' at '%s': '%s'",
    [toString (R.asInt error "errorId" (-1)),remoteMethod,R.asCString jInput "target" "",
      R.asCString error "errorMessage" ""]⟩

def auditLine (R : Readers) (sess : Session) (remoteMethod : String) (jInput error : Json) : LogLine :=
  if R.asBool error "succeed" false = false then errorLine R sess remoteMethod jInput error
  else executedLine R sess remoteMethod jInput

def rmtCaller (R : Readers) (F : FastRPC σ) (o : SqlOutcome) (caller : String) (sess : Session)
    (jInput : Json) (db : Database) (fast : σ) : Called σ :=
  let target := R.asString jInput "target" ""
  let remoteMethod := R.asString jInput "remoteMethod" ""
  if !startsWith remoteMethod caller then ⟨.ok .null,[],db,fast,[]⟩
  else match jInput.get "payload" with
    | .error fault => ⟨.error fault,[],db,fast,[]⟩
    | .ok payload =>
      if target = "DB" then
        let call := runLocalRPCMethod R o remoteMethod sess payload (some .null) db
        match call.result with
        | .error fault => ⟨.error fault,call.log,call.db,fast,[]⟩
        | .ok (j,error) =>
            ⟨.ok j,call.log ++ [auditLine R sess remoteMethod jInput (error.getD .null)],call.db,fast,[]⟩
      else
        let call := F.runRemoteRPCMethod fast target remoteMethod payload .null
        ⟨.ok call.answer,[auditLine R sess remoteMethod jInput call.error],db,call.fast,call.received⟩

def controlMethods (R : Readers) (F : FastRPC σ) (o : SqlOutcome) (sess : Session) (jInput : Json)
    (db : Database) (fast : σ) : Called σ := rmtCaller R F o "control." sess jInput db fast

def statMethods (R : Readers) (F : FastRPC σ) (o : SqlOutcome) (sess : Session) (jInput : Json)
    (db : Database) (fast : σ) : Called σ := rmtCaller R F o "stats." sess jInput db fast

structure RPCMethod (σ : Type) where
  name : String
  required : List String
  handler : Session → Json → Database → σ → Called σ

def methodsManagers (R : Readers) (F : FastRPC σ) (o : SqlOutcome) : List (RPCMethod σ) :=
  [⟨"remote.stats",["stats"],statMethods R F o⟩,
   ⟨"remote.control",["control"],controlMethods R F o⟩]

/-- The library admits a session to a method by the attributes it requires. -/
def AdmitsRequired (admits : List String → Session → Bool) : Prop :=
  ∀ required sess, admits required sess = true → ∀ a ∈ required, a ∈ sess.attribs

def admitsAll (required : List String) (sess : Session) : Bool := required.all (fun a => sess.attribs.contains a)

theorem admitsAllRequired : AdmitsRequired admitsAll := by
  intro required sess admitted a mem
  simpa using List.all_eq_true.mp admitted a mem

def webRequest (R : Readers) (F : FastRPC σ) (admits : List String → Session → Bool) (o : SqlOutcome)
    (name : String) (sess : Session) (jInput : Json) (db : Database) (fast : σ) : Option (Called σ) :=
  match (methodsManagers R F o).find? (fun m => m.name == name) with
  | some m => if admits m.required sess then some (m.handler sess jInput db fast) else none
  | none => none

section Effects
variable {R : Readers} {F : FastRPC σ} {o : SqlOutcome} {caller : String} {sess : Session}
  {jInput : Json} {db : Database} {fast : σ}

variable (F o sess db fast) in
theorem rmtCallerLocal {payload} (found : jInput.get "payload" = .ok payload)
    (good : startsWith (R.asString jInput "remoteMethod" "") caller = true)
    (here : R.asString jInput "target" "" = "DB") :
    ∃ j e, (runLocalRPCMethod R o (R.asString jInput "remoteMethod" "") sess payload (some .null) db).result =
        .ok (j,some e) ∧ e.find? "succeed" = some (.bool true) ∧
      rmtCaller R F o caller sess jInput db fast =
        ⟨.ok j,(runLocalRPCMethod R o (R.asString jInput "remoteMethod" "") sess payload (some .null) db).log ++
            [auditLine R sess (R.asString jInput "remoteMethod" "") jInput e],
          (runLocalRPCMethod R o (R.asString jInput "remoteMethod" "") sess payload (some .null) db).db,fast,[]⟩ := by
  have keyed : Json.null.Keyed := rfl
  obtain ⟨j,e,done,succeed,_⟩ :=
    recordAlwaysSucceeds R o (R.asString jInput "remoteMethod" "") sess payload keyed db
  refine ⟨j,e,done,succeed,?_⟩
  simp only [rmtCaller,good,Bool.not_true,Bool.false_eq_true,if_false,found,here,if_true,done,Option.getD_some]

inductive CallerRan (R : Readers) (F : FastRPC σ) (o : SqlOutcome) (caller : String) (sess : Session)
    (jInput : Json) (db : Database) (fast : σ) : Called σ → Prop where
  | refused (bad : startsWith (R.asString jInput "remoteMethod" "") caller = false) :
      CallerRan R F o caller sess jInput db fast ⟨.ok .null,[],db,fast,[]⟩
  | fault {fault} (bad : jInput.get "payload" = .error fault) :
      CallerRan R F o caller sess jInput db fast ⟨.error fault,[],db,fast,[]⟩
  | here {payload j e call} (found : jInput.get "payload" = .ok payload)
      (good : startsWith (R.asString jInput "remoteMethod" "") caller = true)
      (target : R.asString jInput "target" "" = "DB")
      (ran : call = runLocalRPCMethod R o (R.asString jInput "remoteMethod" "") sess payload (some .null) db) :
      CallerRan R F o caller sess jInput db fast
        ⟨.ok j,call.log ++ [auditLine R sess (R.asString jInput "remoteMethod" "") jInput e],call.db,fast,[]⟩
  | away {payload call} (found : jInput.get "payload" = .ok payload)
      (good : startsWith (R.asString jInput "remoteMethod" "") caller = true)
      (target : R.asString jInput "target" "" ≠ "DB")
      (ran : call = F.runRemoteRPCMethod fast (R.asString jInput "target" "")
        (R.asString jInput "remoteMethod" "") payload .null) :
      CallerRan R F o caller sess jInput db fast
        ⟨.ok call.answer,[auditLine R sess (R.asString jInput "remoteMethod" "") jInput call.error],db,
          call.fast,call.received⟩

theorem rmtCallerRan (R : Readers) (F : FastRPC σ) (o caller sess jInput db fast) :
    CallerRan R F o caller sess jInput db fast (rmtCaller R F o caller sess jInput db fast) := by
  cases good : startsWith (R.asString jInput "remoteMethod" "") caller with
  | false =>
    simp only [rmtCaller,good,Bool.not_false,if_true]
    exact .refused good
  | true =>
    cases found : jInput.get "payload" with
    | error fault =>
      simp only [rmtCaller,good,Bool.not_true,Bool.false_eq_true,if_false,found]
      exact .fault found
    | ok payload =>
      by_cases target : R.asString jInput "target" "" = "DB"
      · obtain ⟨j,e,_,_,called⟩ := rmtCallerLocal F o sess db fast found good target
        rw [called]
        exact .here found good target rfl
      · simp only [rmtCaller,good,Bool.not_true,Bool.false_eq_true,if_false,found,if_neg target]
        exact .away found good target rfl

theorem webRequestCases {admits : List String → Session → Bool} {name : String} {called : Called σ}
    (ran : webRequest R F admits o name sess jInput db fast = some called) :
    (name = "remote.stats" ∧ admits ["stats"] sess = true ∧ called = statMethods R F o sess jInput db fast) ∨
    (name = "remote.control" ∧ admits ["control"] sess = true ∧
      called = controlMethods R F o sess jInput db fast) := by
  simp only [webRequest,methodsManagers,List.find?_cons,List.find?_nil] at ran
  split at ran
  · rename_i m found
    split at ran <;> try contradiction
    rename_i admitted
    cases Option.some.inj ran
    split at found
    · rename_i same
      cases Option.some.inj found
      exact Or.inl ⟨(beq_iff_eq.mp same).symm,admitted,rfl⟩
    · split at found
      · rename_i same
        cases Option.some.inj found
        exact Or.inr ⟨(beq_iff_eq.mp same).symm,admitted,rfl⟩
      · contradiction
  · contradiction

end Effects

/-! The error record and the audit line, compared with what ran. -/
structure RecordTruth (R : Readers) (o : SqlOutcome) (methodName : String) (sess : Session)
    (payload record : Json) (db : Database) : Prop where
  ran : methodName ∈ localMethods → ∃ answer e,
    (runLocalRPCMethod R o methodName sess payload (some record) db).result = .ok (answer,some e) ∧
    e.find? "succeed" = some (.bool true) ∧ e.find? "errorId" = some (.int 0)
  unknown : methodName ∉ localMethods → ∃ e,
    (runLocalRPCMethod R o methodName sess payload (some record) db).result = .ok (.null,some e) ∧
    e.find? "succeed" = some (.bool false) ∧ e.find? "errorId" = some (.int 1) ∧
    (runLocalRPCMethod R o methodName sess payload (some record) db).db = db
  nullPointer : ∃ answer e,
    (runLocalRPCMethod R o methodName sess payload (some record) db).result = .ok (answer,some e) ∧
    (runLocalRPCMethod R o methodName sess payload none db).result = .ok (answer,none) ∧
    (runLocalRPCMethod R o methodName sess payload none db).db =
      (runLocalRPCMethod R o methodName sess payload (some record) db).db

def HandlerRan (R : Readers) (o : SqlOutcome) (sess : Session) (jInput : Json) (db : Database) : Prop :=
  ∃ payload handled, jInput.get "payload" = .ok payload ∧
    dispatch R o (R.asString jInput "remoteMethod" "") sess payload db = some handled

structure AuditTruth (R : Readers) (F : FastRPC σ) (o : SqlOutcome) (caller : String) (sess : Session)
    (jInput : Json) (db : Database) (fast : σ) : Prop where
  executed : (∃ line ∈ (rmtCaller R F o caller sess jInput db fast).log,
      line.func = "rmtCaller" ∧ line.level = .info) ↔ HandlerRan R o sess jInput db
  error : (∃ line ∈ (rmtCaller R F o caller sess jInput db fast).log,
      line.func = "rmtCaller" ∧ line.level = .err) ↔ ¬ HandlerRan R o sess jInput db

theorem recordTruthExactly (R : Readers) (o : SqlOutcome) (methodName : String) (sess : Session)
    (payload record : Json) (db : Database) :
    RecordTruth R o methodName sess payload record db ↔ methodName ∈ localMethods ∧ record.Keyed := by
  constructor
  · intro truth
    obtain ⟨answer,e,done,_⟩ := truth.nullPointer
    have keyed : record.Keyed := by
      by_contra bad
      rw [recordFault R o methodName sess payload bad db] at done
      contradiction
    refine ⟨?_,keyed⟩
    by_contra unknown
    obtain ⟨f,stated,failed,_⟩ := truth.unknown unknown
    obtain ⟨_,g,actual,succeeded,_⟩ := recordAlwaysSucceeds R o methodName sess payload keyed db
    rw [actual] at stated
    cases stated
    rw [succeeded] at failed
    simp at failed
  · rintro ⟨known,keyed⟩
    obtain ⟨answer,e,done,succeed,errorId⟩ := recordAlwaysSucceeds R o methodName sess payload keyed db
    exact ⟨fun _ => ⟨answer,e,done,succeed,errorId⟩,fun unknown => absurd known unknown,
      answer,e,done,nullPointerSame done⟩

theorem handlerLines {R o methodName sess payload db handled}
    (ran : dispatch R o methodName sess payload db = some handled) :
    ∀ line ∈ handled.log, line.func ≠ "rmtCaller" := by
  cases dispatchRan ran with
  | getAdd1 => simp [getAdd1]
  | getMessages => simp [getMessages]
  | createMessage => simp only [createMessage]; split <;> simp
  | removeMessage => simp only [removeMessage]; split <;> simp

theorem localLines (R o methodName sess payload error db) :
    ∀ line ∈ (runLocalRPCMethod R o methodName sess payload error db).log, line.func ≠ "rmtCaller" := by
  unfold runLocalRPCMethod
  split
  · rename_i handled ran; exact handlerLines ran
  · simp

theorem targetKeyed {R : Readers} (law : R.Documented) {jInput : Json}
    (here : R.asString jInput "target" "" = "DB") : jInput.Keyed := by
  by_contra bad
  rw [Readers.stringNotKeyed law bad] at here
  contradiction

theorem auditAlwaysExecuted {R : Readers} (law : R.Documented) {e : Json}
    (succeed : e.find? "succeed" = some (.bool true)) (sess remoteMethod jInput) :
    auditLine R sess remoteMethod jInput e = executedLine R sess remoteMethod jInput := by
  simp [auditLine,law.bool false succeed]

theorem handlerRanExactly {R : Readers} {jInput payload : Json} (found : jInput.get "payload" = .ok payload)
    (o sess db) : HandlerRan R o sess jInput db ↔ R.asString jInput "remoteMethod" "" ∈ localMethods := by
  rw [← dispatched R o _ sess payload db,Option.isSome_iff_exists]
  constructor
  · rintro ⟨p,handled,same,ran⟩
    rw [found] at same
    cases same
    exact ⟨handled,ran⟩
  · rintro ⟨handled,ran⟩
    exact ⟨payload,handled,found,ran⟩

theorem auditTruthExactly {R : Readers} (law : R.Documented) (F : FastRPC σ) (o : SqlOutcome)
    {caller : String} (sess : Session) {jInput : Json} (db : Database) (fast : σ)
    (here : R.asString jInput "target" "" = "DB")
    (good : startsWith (R.asString jInput "remoteMethod" "") caller = true) :
    AuditTruth R F o caller sess jInput db fast ↔ R.asString jInput "remoteMethod" "" ∈ localMethods := by
  have found := Json.getKeyed (targetKeyed law here) "payload"
  obtain ⟨j,e,_,succeed,called⟩ := rmtCallerLocal F o sess db fast found good here
  rw [auditAlwaysExecuted law succeed] at called
  have audit : ∀ line ∈ (rmtCaller R F o caller sess jInput db fast).log, line.func = "rmtCaller" →
      line = executedLine R sess (R.asString jInput "remoteMethod" "") jInput := by
    intro line mem own
    rw [called] at mem
    rcases List.mem_append.mp mem with inner | last
    · exact absurd own (localLines _ _ _ _ _ _ _ line inner)
    · exact List.mem_singleton.mp last
  have executed : ∃ line ∈ (rmtCaller R F o caller sess jInput db fast).log,
      line.func = "rmtCaller" ∧ line.level = .info :=
    ⟨executedLine R sess (R.asString jInput "remoteMethod" "") jInput,by rw [called]; simp,rfl,rfl⟩
  rw [← handlerRanExactly found o sess db]
  constructor
  · intro truth
    exact truth.executed.mp executed
  · intro ran
    refine ⟨⟨fun _ => ran,fun _ => executed⟩,⟨?_,fun no => absurd ran no⟩⟩
    rintro ⟨line,mem,own,level⟩
    rw [audit line mem own] at level
    simp [executedLine] at level

theorem truthExactlyWhenDispatched {R : Readers} (law : R.Documented) (F : FastRPC σ) :
    (∀ o methodName sess payload record db,
      RecordTruth R o methodName sess payload record db ↔ methodName ∈ localMethods ∧ record.Keyed) ∧
    (∀ o caller sess jInput db fast, R.asString jInput "target" "" = "DB" →
      startsWith (R.asString jInput "remoteMethod" "") caller = true →
      (AuditTruth R F o caller sess jInput db fast ↔ R.asString jInput "remoteMethod" "" ∈ localMethods)) :=
  ⟨recordTruthExactly R,fun o _ sess _ db fast here good => auditTruthExactly law F o sess db fast here good⟩

def addRequest : Json :=
  .object [("target",.string "DB"),("remoteMethod",.string "stats.getAdd1"),
    ("payload",.object [("value",.int 41)])]

theorem addRequestReportedTruly :
    RecordTruth Readers.plain ⟨⟨true,"",0,"",true⟩,.delivers⟩ "stats.getAdd1" ⟨"ana","1",["stats"]⟩
      (.object [("value",.int 41)]) .null none ∧
    AuditTruth Readers.plain FastRPC.registry ⟨⟨true,"",0,"",true⟩,.delivers⟩ "stats."
      ⟨"ana","1",["stats"]⟩ addRequest none [] :=
  ⟨((truthExactlyWhenDispatched Readers.plainDocumented FastRPC.registry).1 _ _ _ _ _ _).mpr
      ⟨by decide,rfl⟩,
    ((truthExactlyWhenDispatched Readers.plainDocumented FastRPC.registry).2 _ _ _ _ _ _ rfl
      (by decide)).mpr (by decide)⟩

def misspelt : Json :=
  .object [("target",.string "DB"),("remoteMethod",.string "control.clearMessages"),("payload",.null)]

theorem misspeltReportedExecuted :
    ¬ RecordTruth Readers.plain ⟨⟨true,"",0,"",true⟩,.delivers⟩ "control.clearMessages"
        ⟨"ana","1",["control"]⟩ .null .null none ∧
    ¬ AuditTruth Readers.plain FastRPC.registry ⟨⟨true,"",0,"",true⟩,.delivers⟩ "control."
        ⟨"ana","1",["control"]⟩ misspelt none [] := by
  constructor
  · rw [recordTruthExactly]
    exact fun truth => absurd truth.1 (by decide)
  · rw [auditTruthExactly Readers.plainDocumented FastRPC.registry _ _ _ _ rfl (by decide)]
    decide

end HelloMantids
