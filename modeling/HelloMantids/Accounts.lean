import HelloMantids.Lineage

/-! Accounts of the table's changes: every row that came or went did so at a request
through the control entry, by a session that holds the attribute, and that request's log
lines name the session. -/
namespace HelloMantids
open Transition
variable {σ : Type}

def addingLine (sess : Session) (message : String) : LogLine :=
  ⟨"createMessage","",.info,"User '%s' is adding message '%s'",[sess.authUser,message]⟩

def removingLine (sess : Session) (id : Nat) : LogLine :=
  ⟨"removeMessage","",.info,"User '%s' is removing node '%u'",[sess.authUser,toString id]⟩

structure ControlCall (R : Readers) (e : Event) (method : String) (sess : Session) (jInput payload : Json)
    (o : SqlOutcome) : Prop where
  event : e = .web "remote.control" sess jInput o
  attrib : "control" ∈ sess.attribs
  target : R.asString jInput "target" "" = "DB"
  remoteMethod : R.asString jInput "remoteMethod" "" = method
  payload : jInput.get "payload" = .ok payload

structure Signed (R : Readers) (log : List LogLine) (method : String) (sess : Session) (jInput : Json)
    (line : LogLine) : Prop where
  line : line ∈ log
  executed : executedLine R sess method jInput ∈ log

/-! One event of the server, by what it did to the table. -/
inductive Wrote (R : Readers) (db : Database) (e : Event) (after : Database) (log : List LogLine) : Prop where
  | created (sess jInput payload o) (call : ControlCall R e "control.createMessage" sess jInput payload o)
      (table : after = (createMessage R o.write sess payload db).db)
      (signed : Signed R log "control.createMessage" sess jInput
        (addingLine sess (R.asString payload "message" "")))
  | removed (sess jInput payload o) (call : ControlCall R e "control.removeMessage" sess jInput payload o)
      (table : after = (removeMessage R o.write sess payload db).db)
      (signed : Signed R log "control.removeMessage" sess jInput (removingLine sess (postId R payload)))
  | kept (table : after = db)

theorem addingLogged (R o sess payload db) :
    addingLine sess (R.asString payload "message" "") ∈ (createMessage R o sess payload db).log := by
  simp only [createMessage]
  split <;> simp [addingLine]

theorem removingLogged (R o sess payload db) :
    removingLine sess (postId R payload) ∈ (removeMessage R o sess payload db).log := by
  simp only [removeMessage]
  split <;> simp [removingLine]

theorem signedLast {R : Readers} {log : List LogLine} {line : LogLine} (mem : line ∈ log) (method sess jInput) :
    Signed R (log ++ [executedLine R sess method jInput]) method sess jInput line :=
  ⟨List.mem_append_left _ mem,List.mem_append_right _ (List.mem_singleton_self _)⟩

section Steps
variable {R : Readers} {F : FastRPC σ} {admits : List String → Session → Bool}

theorem boardCallSource {e : Event} {call : BoardCall} (wrote : boardCall? R admits e = some call) :
    ∃ sess jInput payload o, e = .web "remote.control" sess jInput o ∧ admits ["control"] sess = true ∧
      R.asString jInput "target" "" = "DB" ∧ jInput.get "payload" = .ok payload ∧
      writeCall? sess payload o.write (R.asString jInput "remoteMethod" "") = some call := by
  cases e with
  | web name sess jInput o =>
    simp only [boardCall?] at wrote
    split at wrote <;> try contradiction
    rename_i entered
    obtain ⟨rfl,admitted,target⟩ := entered
    split at wrote <;> try contradiction
    rename_i payload found
    exact ⟨sess,jInput,payload,o,rfl,admitted,target,found,wrote⟩
  | agentCall nodeName method payload => contradiction
  | connect sock => contradiction
  | ended sock ret => contradiction

theorem controlLogged (law : R.Documented) {s : Server σ} {sess : Session} {jInput payload : Json}
    {o : SqlOutcome} (admitted : admits ["control"] sess = true)
    (target : R.asString jInput "target" "" = "DB") (found : jInput.get "payload" = .ok payload)
    (good : startsWith (R.asString jInput "remoteMethod" "") "control." = true) :
    (step R F admits s (.web "remote.control" sess jInput o)).2.log =
      (runLocalRPCMethod R o (R.asString jInput "remoteMethod" "") sess payload (some .null) s.db).log ++
        [executedLine R sess (R.asString jInput "remoteMethod" "") jInput] := by
  obtain ⟨j,e,_,succeed,called⟩ := rmtCallerLocal F o sess s.db s.fast found good target
  have ran : webRequest R F admits o "remote.control" sess jInput s.db s.fast =
      some (controlMethods R F o sess jInput s.db s.fast) := by
    simp [webRequest,methodsManagers,admitted]
  rw [stepRan ran,controlMethods,called,auditAlwaysExecuted law succeed]

theorem stepWrote (law : R.Documented) (admitted : AdmitsRequired admits) (s : Server σ) (e : Event) :
    Wrote R s.db e (step R F admits s e).1.db (step R F admits s e).2.log := by
  have table := stepCalled R F admits s e
  cases called : boardCall? R admits e with
  | none => exact .kept (by rw [table,called]; rfl)
  | some call =>
    obtain ⟨sess,jInput,payload,o,rfl,admits_,target,found,wrote⟩ := boardCallSource called
    have attrib := admitted _ sess admits_ "control" (by simp)
    rw [called] at table
    unfold writeCall? at wrote
    split_ifs at wrote with create remove
    · have log := controlLogged (F := F) (s := s) (o := o) law admits_ target found (by rw [create]; decide)
      cases wrote
      rw [create] at log
      exact .created sess jInput payload o ⟨rfl,attrib,target,create,found⟩ table
        (log ▸ signedLast (addingLogged R o.write sess payload s.db) ..)
    · have log := controlLogged (F := F) (s := s) (o := o) law admits_ target found (by rw [remove]; decide)
      cases wrote
      rw [remove] at log
      exact .removed sess jInput payload o ⟨rfl,attrib,target,remove,found⟩ table
        (log ▸ signedLast (removingLogged R o.write sess payload s.db) ..)

end Steps

/-! Rows that came or went at one event. -/
structure Came (R : Readers) (x : Served (Server σ) Event Reply) (m : Row) : Prop where
  absent : m ∉ x.before.db.rows
  present : m ∈ x.after.db.rows
  source : ∃ sess jInput payload o, ControlCall R x.event "control.createMessage" sess jInput payload o ∧
    m = newPost m.id o.write (R.asString payload "message" "") sess.authUser ∧
    Signed R x.answer.log "control.createMessage" sess jInput (addingLine sess (R.asString payload "message" ""))

structure Went (R : Readers) (x : Served (Server σ) Event Reply) (m : Row) : Prop where
  present : m ∈ x.before.db.rows
  absent : m ∉ x.after.db.rows
  source : ∃ sess jInput payload o, ControlCall R x.event "control.removeMessage" sess jInput payload o ∧
    postId R payload = m.id ∧
    Signed R x.answer.log "control.removeMessage" sess jInput (removingLine sess m.id)

section Rows
variable {R : Readers} {x : Served (Server σ) Event Reply} {m : Row}

theorem rowCame (wrote : Wrote R x.before.db x.event x.after.db x.answer.log) (absent : m ∉ x.before.db.rows)
    (mem : m ∈ x.after.db.rows) : Came R x m := by
  refine ⟨absent,mem,?_⟩
  cases wrote with
  | kept table => rw [table] at mem; exact absurd mem absent
  | removed sess jInput payload o call table signed =>
    rw [table] at mem
    exact absurd ((removeShrinks R o.write sess payload x.before.db).subset mem) absent
  | created sess jInput payload o call table signed =>
    rw [table] at mem
    rcases createAnswers R o.write sess payload x.before.db with ok | failed
    · obtain ⟨t,u,before,made,rows,_⟩ := createSucceeded ok
      have listed : m ∈ u.rows := by rw [made] at mem; exact mem
      rw [rows,List.mem_append,List.mem_singleton] at listed
      rcases listed with old | new
      · rw [before] at absent
        exact absurd old absent
      · subst new
        exact ⟨sess,jInput,payload,o,call,rfl,signed⟩
    · rw [createFailed failed] at mem
      exact absurd mem absent

theorem rowWent (wrote : Wrote R x.before.db x.event x.after.db x.answer.log) (mem : m ∈ x.before.db.rows)
    (absent : m ∉ x.after.db.rows) : Went R x m := by
  refine ⟨mem,absent,?_⟩
  cases wrote with
  | kept table => rw [table] at absent; exact absurd mem absent
  | created sess jInput payload o call table signed =>
    rw [table] at absent
    rcases createAnswers R o.write sess payload x.before.db with ok | failed
    · obtain ⟨t,u,before,made,rows,_⟩ := createSucceeded ok
      rw [before] at mem
      rw [made] at absent
      refine absurd ?_ absent
      change m ∈ u.rows
      rw [rows]
      exact List.mem_append_left _ mem
    · rw [createFailed failed] at absent
      exact absurd mem absent
  | removed sess jInput payload o call table signed =>
    rw [table] at absent
    have named : postId R payload = m.id := by
      by_contra other
      exact absent ((removeOthers R o.write sess payload x.before.db (Ne.symm other)).mpr mem)
    exact ⟨sess,jInput,payload,o,call,named,named ▸ signed⟩

end Rows

/-- Every row that came in a run, and every row that went, did so at one of its requests,
which says so in the log. -/
theorem rowsAccountedFor {R : Readers} (law : R.Documented) (F : FastRPC σ)
    {admits : List String → Session → Bool} (admitted : AdmitsRequired admits) (s : Server σ)
    (events : List Event) (m : Row) :
    (m ∉ s.db.rows → m ∈ (final (step R F admits) s events).db.rows →
      ∃ pre x post, history (step R F admits) s events = pre ++ x::post ∧ Came R x m) ∧
    (m ∈ s.db.rows → m ∉ (final (step R F admits) s events).db.rows →
      ∃ pre x post, history (step R F admits) s events = pre ++ x::post ∧ Went R x m) := by
  have wrote (s : Server σ) (e : Event) : Wrote R (served (step R F admits) s e).before.db e
      (served (step R F admits) s e).after.db (served (step R F admits) s e).answer.log := stepWrote law admitted s e
  constructor
  · intro absent mem
    obtain ⟨pre,e,post,split,off,on⟩ :=
      turningStep (step R F admits) (P := fun t : Server σ => m ∈ t.db.rows) absent mem
    rw [split,historyAppend]
    exact ⟨_,_,_,rfl,rowCame (wrote _ e) off on⟩
  · intro mem absent
    obtain ⟨pre,e,post,split,on,off⟩ :=
      turningStep (step R F admits) (P := fun t : Server σ => m ∉ t.db.rows) (not_not_intro mem) absent
    rw [split,historyAppend]
    exact ⟨_,_,_,rfl,rowWent (wrote _ e) (not_not.mp on) off⟩

-- A post that is refused, one of another user that is taken.
def twoPosts : List Event :=
  [.web "remote.control" ⟨"eva","2",["control"]⟩ postRequest ⟨⟨false,"gone away",0,"t1",true⟩,.delivers⟩,
   .web "remote.control" ⟨"ana","1",["control"]⟩ postRequest ⟨⟨true,"",0,"t1",true⟩,.delivers⟩]

theorem postAccountedFor :
    (∃ pre x post, history (step Readers.plain FastRPC.registry admitsAll) ⟨some Posts.empty,[],[]⟩ twoPosts =
      pre ++ x::post ∧ Came Readers.plain x ⟨1,"hello","ana","t1"⟩) ∧
    ∃ pre x post, history (step Readers.plain FastRPC.registry admitsAll) onePostUp (twoPosts ++ [removal]) =
      pre ++ x::post ∧ Went Readers.plain x ⟨1,"hello","ana","t0"⟩ :=
  ⟨(rowsAccountedFor Readers.plainDocumented FastRPC.registry admitsAllRequired ⟨some Posts.empty,[],[]⟩
      twoPosts ⟨1,"hello","ana","t1"⟩).1 (by decide) (by decide),
    (rowsAccountedFor Readers.plainDocumented FastRPC.registry admitsAllRequired onePostUp
      (twoPosts ++ [removal]) ⟨1,"hello","ana","t0"⟩).2 (by decide) (by decide)⟩

end HelloMantids
