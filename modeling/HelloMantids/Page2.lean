import HelloMantids.Browser
import HelloMantids.ServerThreads

/-! Page 2: the number field, the call of `getAdd1` and the text of its answer. Answers
may come late, out of order, or not at all. -/
namespace HelloMantids
open JsNumber Transition
variable {σ : Type}

/-! The field: what is no floating-point number of the HTML standard, or one too large
for a double, reads as empty. -/
def digits (cs : List Char) : Bool := !cs.isEmpty && cs.all Char.isDigit

def exponent : List Char → Bool
  | [] => true
  | c :: '+'::rest => (c = 'e' || c = 'E') && digits rest
  | c :: '-'::rest => (c = 'e' || c = 'E') && digits rest
  | c::rest => (c = 'e' || c = 'E') && digits rest

def unsignedNumber (cs : List Char) : Bool :=
  match cs.dropWhile Char.isDigit with
  | '.'::rest => !(rest.takeWhile Char.isDigit).isEmpty && exponent (rest.dropWhile Char.isDigit)
  | rest => !(cs.takeWhile Char.isDigit).isEmpty && exponent rest

def validNumber : List Char → Bool
  | '-'::rest => unsignedNumber rest
  | cs => unsignedNumber cs

def unsigned : List Char → List Char
  | '-'::rest => rest
  | cs => cs

-- The powers of ten that an exponent multiplies and divides by.
def powerOfTen : List Char → Nat × Nat
  | [] => (0,0)
  | _ :: '-'::rest => (0,Nat.ofDigitChars 10 rest 0)
  | _ :: '+'::rest => (Nat.ofDigitChars 10 rest 0,0)
  | _::rest => (Nat.ofDigitChars 10 rest 0,0)

/-- The number spelled, a numerator and the power of ten below it. -/
def decimal (cs : List Char) : Nat × Nat :=
  let whole := cs.takeWhile Char.isDigit
  match cs.dropWhile Char.isDigit with
  | '.'::rest =>
      let fraction := rest.takeWhile Char.isDigit
      let tens := powerOfTen (rest.dropWhile Char.isDigit)
      (Nat.ofDigitChars 10 (whole ++ fraction) 0 * 10^tens.1,fraction.length + tens.2)
  | rest =>
      let tens := powerOfTen rest
      (Nat.ofDigitChars 10 whole 0 * 10^tens.1,tens.2)

-- From half-way between the largest double and 2^1024 a number rounds to 2^1024.
def finite (cs : List Char) : Bool :=
  let value := decimal cs
  value.1 < (2^54 - 1) * 2^970 * 10^value.2

def fieldValue (typed : String) : String :=
  if validNumber typed.toList && finite (unsigned typed.toList) then typed else ""

/- A Number in the call's JSON text, as the server's JSON reader decodes it; only whole
numbers that are not infinite have digits there. -/
def sentJson : Bool × Number → Json
  | (negative,.whole n) =>
      let v := shortest n
      if negative then
        if v ≤ 2^63 then .int (-v) else .real (-n) 0
      else if v < 2^64 then numberJson v else .real n 0
  | _ => .null

-- The text that jQuery writes for an answer; none for an answer that `getAdd1` does not give.
def shownText : Json → Option String
  | .uint n => some (ofInteger n).text
  | _ => none

namespace Page2

def add1Value (T : Transport) (typed : String) : String × Json :=
  T.request "stats" "DB" "getAdd1" (.object [("value",sentJson (parseSigned (fieldValue typed)))])

end Page2

/-- What is counted: the number that the digits in front spell, zero if there are none
or the server's 32 bits do not hold it. -/
def counted (typed : String) : Nat :=
  let n := Nat.ofDigitChars 10 ((fieldValue typed).toList.takeWhile Char.isDigit) 0
  if n < 2^32 then n else 0

theorem sentNegative (number : Number) : (sentJson (true,number)).asUnsigned?.getD 0 = 0 := by
  cases number with
  | infinity => rfl
  | nan => rfl
  | whole n =>
    simp only [sentJson,if_true]
    split
    · simp only [Json.asUnsigned?]
      split
      · rw [Option.getD_some]
        omega
      · rfl
    · rename_i large
      have positive : n ≠ 0 := by
        rintro rfl
        exact large (by decide)
      simp only [Json.asUnsigned?,Int.le_refl,if_true,Int.toNat_zero,pow_zero,mul_one,true_or,true_and]
      rw [if_neg (by omega)]
      rfl

theorem realAbove {n : Nat} (above : 2^32 ≤ n) : (Json.real n 0).asUnsigned? = none := by
  simp only [Json.asUnsigned?,Int.le_refl,if_true,Int.toNat_zero,pow_zero,mul_one,true_or,true_and]
  exact if_neg (by omega)

theorem numberAbove {n : Nat} (above : 2^32 ≤ n) : (numberJson n).asUnsigned? = none := by
  unfold numberJson
  split_ifs
  · simp only [Json.asUnsigned?]
    exact if_neg (by omega)
  · simp only [Json.asUnsigned?]
    exact if_neg (by omega)
  · exact realAbove above

theorem sentWhole (n : Nat) :
    (sentJson (false,ofInteger n)).asUnsigned?.getD 0 = if n < 2^32 then n else 0 := by
  by_cases fits : n < 2^32
  · have same : round53 n = n := if_pos (by omega)
    have small : n < 2^1024 := Nat.lt_of_lt_of_le fits (pow_le_pow_right₀ (by decide) (by decide))
    rw [ofInteger,same,if_pos small,if_pos fits]
    simp only [sentJson,Bool.false_eq_true,if_false,shortestExact fits]
    rw [if_pos (by omega),numberRead fits,Option.getD_some]
  · have large : 2^32 ≤ round53 n := by
      by_contra below
      have same := round53Below (Nat.lt_of_not_le below)
      omega
    rw [ofInteger,if_neg fits]
    split
    · rename_i finite
      have above := shortestAbove ⟨roundTwice n,finite⟩ large
      simp only [sentJson,Bool.false_eq_true,if_false]
      split
      · rw [numberAbove above]
        rfl
      · rw [realAbove large]
        rfl
    · rfl

theorem sentCounted (typed : String) :
    (sentJson (parseSigned (fieldValue typed))).asUnsigned?.getD 0 = counted typed := by
  unfold parseSigned counted
  split
  · rename_i rest signed
    rw [sentNegative,signed]
    rfl
  · rename_i plain
    unfold parseInt
    split
    · rename_i none_
      rw [none_]
      rfl
    · exact sentWhole _

example : (counted "1e400",counted "1e308",counted "41") = (0,1,41) := by decide +kernel

theorem countedFits (typed : String) : counted typed < 2^32 := by
  unfold counted
  dsimp only
  split
  · assumption
  · decide

/-! A click, the server and the answer. -/
theorem add1Answer {R : Readers} (read : R.Documented) (typed : String) (db : Database) :
    getAdd1 R (.object [("value",sentJson (parseSigned (fieldValue typed)))]) db =
      ⟨.uint ((counted typed + 1) % 2^32),[],db⟩ := by
  have value : R.asUInt (.object [("value",sentJson (parseSigned (fieldValue typed)))]) "value" 0 = counted typed := by
    have member : (Json.object [("value",sentJson (parseSigned (fieldValue typed)))]).unsignedMember? "value" =
        (sentJson (parseSigned (fieldValue typed))).asUnsigned? := rfl
    rw [← sentCounted]
    cases found : (sentJson (parseSigned (fieldValue typed))).asUnsigned? with
    | some n => exact read.unsigned 0 (member.trans found)
    | none => exact read.notUnsigned 0 (member.trans found)
  simp only [getAdd1,value,Nat.mod_eq_of_lt (countedFits typed)]

theorem add1Text (typed : String) :
    shownText (.uint ((counted typed + 1) % 2^32)) = some (toString ((counted typed + 1) % 2^32)) := by
  have below : (counted typed + 1) % 2^32 < 2^32 := Nat.mod_lt _ (by decide)
  generalize (counted typed + 1) % 2^32 = x at below ⊢
  have same : round53 x = x := if_pos (by omega)
  have whole : x < 2^1024 := Nat.lt_of_lt_of_le below (pow_le_pow_right₀ (by decide) (by decide))
  simp only [shownText,ofInteger,same,if_pos whole,Number.text]
  rw [textDecimal ⟨same,whole⟩ (by omega),shortestExact below]

section Exchange
variable {R : Readers} {F : FastRPC σ} {admits : List String → Session → Bool} {T : Transport}

variable (F admits) in
theorem add1Served (read : R.Documented) (law : T.Documented R) (s : Server σ) (sess : Session) (o : SqlOutcome)
    (typed : String) :
    let served := step R F admits s (.web (Page2.add1Value T typed).1 sess (Page2.add1Value T typed).2 o)
    served.1 = s ∧ (served.2.answer = none ∨
      served.2.answer = some (.ok (.uint ((counted typed + 1) % 2^32)))) := by
  let payload : Json := .object [("value",sentJson (parseSigned (fieldValue typed)))]
  have entry : (Page2.add1Value T typed).1 = "remote.stats" := law.entry "stats" "DB" "getAdd1" payload
  have target : R.asString (Page2.add1Value T typed).2 "target" "" = "DB" := law.target "stats" "DB" "getAdd1" payload
  have method : R.asString (Page2.add1Value T typed).2 "remoteMethod" "" = "stats.getAdd1" :=
    law.remoteMethod "stats" "DB" "getAdd1" payload
  have found : (Page2.add1Value T typed).2.get "payload" = .ok payload := law.payload "stats" "DB" "getAdd1" payload
  generalize (Page2.add1Value T typed).1 = name at entry ⊢
  generalize (Page2.add1Value T typed).2 = jInput at target method found ⊢
  subst entry
  have entered := webRequestCaller R F admits o "remote.stats" sess jInput s.db s.fast
  cases held : admits ["stats"] sess with
  | false =>
    simp only [caller?,held,Bool.false_eq_true,if_false,if_true,Option.map_none] at entered
    dsimp only
    rw [stepRefused entered]
    exact ⟨rfl,Or.inl rfl⟩
  | true =>
    have good : startsWith (R.asString jInput "remoteMethod" "") "stats." = true := by rw [method]; decide
    have add : dispatch R o (R.asString jInput "remoteMethod" "") sess payload s.db =
        some ⟨.uint ((counted typed + 1) % 2^32),[],s.db⟩ := by
      rw [method]
      exact congrArg some (add1Answer read typed s.db)
    obtain ⟨j,e,done,_,ran⟩ := rmtCallerLocal F o sess s.db s.fast found good target
    obtain ⟨table,answer⟩ := localRan (some .null) add
    simp only [caller?,held,if_true,Option.map_some,ran,table,answer j _ done] at entered
    dsimp only
    rw [stepRan entered]
    exact ⟨by simp,Or.inr rfl⟩

end Exchange

/-! The page over a run. -/
structure AddPage (σ : Type) where
  server : Server σ
  typed : String
  result : Option String
  calls : List (String × Json)
  responses : List (Option (Except Fault Json))

inductive AddHappening where
  | type (text : String)
  | click
  | serve (n : Nat) (sess : Session) (o : SqlOutcome)
  | respond (n : Nat)
  | callLost (n : Nat)
  | responseLost (n : Nat)
  | elsewhere (e : Event)

def turn (R : Readers) (F : FastRPC σ) (admits : List String → Session → Bool) (T : Transport) (p : AddPage σ) :
    AddHappening → AddPage σ × Option String
  | .type text => ({p with typed := text},none)
  | .click => ({p with calls := p.calls ++ [Page2.add1Value T p.typed]},none)
  | .serve n sess o =>
      match p.calls[n]? with
      | some call =>
          let served := step R F admits p.server (.web call.1 sess call.2 o)
          ({p with server := served.1,calls := p.calls.eraseIdx n,
                   responses := p.responses ++ [served.2.answer]},none)
      | none => (p,none)
  | .respond n =>
      match (p.responses[n]?.bind T.receive).bind shownText with
      | some text => ({p with result := some text,responses := p.responses.eraseIdx n},some text)
      | none => ({p with responses := p.responses.eraseIdx n},none)
  | .callLost n => ({p with calls := p.calls.eraseIdx n},none)
  | .responseLost n => ({p with responses := p.responses.eraseIdx n},none)
  | .elsewhere e => ({p with server := (step R F admits p.server e).1},none)

def AddHappening.event? : AddHappening → Option Event
  | .elsewhere e => some e
  | _ => none

section Runs
variable (R : Readers) (F : FastRPC σ) (admits : List String → Session → Bool) (T : Transport)

def ClickedWith (p : AddPage σ) (events : List AddHappening) (typed : String) : Prop :=
  ∃ past, past ++ [.click] <+: events ∧ (final (turn R F admits T) p past).typed = typed

/-- What is under way, and what is shown, belongs to clicks: the field's text then,
counted up by one in 32 bits. -/
structure FromClicks (p : AddPage σ) (events : List AddHappening) (q : AddPage σ) : Prop where
  calls : ∀ c ∈ q.calls, ∃ typed, ClickedWith R F admits T p events typed ∧ c = Page2.add1Value T typed
  responses : ∀ a ∈ q.responses, a = none ∨ ∃ typed, ClickedWith R F admits T p events typed ∧
    a = some (.ok (.uint ((counted typed + 1) % 2^32)))
  result : q.result = none ∨ ∃ typed, ClickedWith R F admits T p events typed ∧
    q.result = some (toString ((counted typed + 1) % 2^32))

variable {R F admits T} {p q : AddPage σ} {events : List AddHappening}

theorem clickedLater {typed : String} (clicked : ClickedWith R F admits T p events typed) (h : AddHappening) :
    ClickedWith R F admits T p (events ++ [h]) typed := by
  obtain ⟨past,before,same⟩ := clicked
  exact ⟨past,before.trans (List.prefix_append _ _),same⟩

theorem fromLater (from_ : FromClicks R F admits T p events q) (h : AddHappening) :
    FromClicks R F admits T p (events ++ [h]) q where
  calls c mem := by
    obtain ⟨typed,clicked,same⟩ := from_.calls c mem
    exact ⟨typed,clickedLater clicked h,same⟩
  responses a mem := (from_.responses a mem).imp_right fun found => by
    obtain ⟨typed,clicked,same⟩ := found
    exact ⟨typed,clickedLater clicked h,same⟩
  result := from_.result.imp_right fun found => by
    obtain ⟨typed,clicked,same⟩ := found
    exact ⟨typed,clickedLater clicked h,same⟩

theorem fromServed (read : R.Documented) (law : T.Documented R) (from_ : FromClicks R F admits T p events q)
    (n : Nat) (sess : Session) (o : SqlOutcome) :
    FromClicks R F admits T p events (turn R F admits T q (.serve n sess o)).1 ∧
      (turn R F admits T q (.serve n sess o)).1.server = q.server := by
  simp only [turn]
  cases found : q.calls[n]? with
  | none => exact ⟨from_,rfl⟩
  | some c =>
    obtain ⟨typed,clicked,same⟩ := from_.calls c (List.mem_of_getElem? found)
    subst same
    obtain ⟨kept,answer⟩ := add1Served F admits read law q.server sess o typed
    refine ⟨⟨fun c mem => from_.calls c (List.mem_of_mem_eraseIdx mem),fun a mem => ?_,from_.result⟩,kept⟩
    rcases List.mem_append.mp mem with before | new
    · exact from_.responses a before
    · rw [List.mem_singleton.mp new]
      exact answer.imp_right fun answered => ⟨typed,clicked,answered⟩

theorem fromResponse (law : T.Documented R) (from_ : FromClicks R F admits T p events q) (n : Nat) :
    FromClicks R F admits T p events (turn R F admits T q (.respond n)).1 := by
  have fewer (a) (mem : a ∈ q.responses.eraseIdx n) := from_.responses a (List.mem_of_mem_eraseIdx mem)
  simp only [turn]
  cases shown : (q.responses[n]?.bind T.receive).bind shownText with
  | none => exact ⟨from_.calls,fewer,from_.result⟩
  | some text =>
    obtain ⟨j,received,wrote⟩ := Option.bind_eq_some_iff.mp shown
    obtain ⟨a,found,received⟩ := Option.bind_eq_some_iff.mp received
    have answered := law.receives received
    refine ⟨from_.calls,fewer,Or.inr ?_⟩
    rcases from_.responses a (List.mem_of_getElem? found) with missing | ⟨typed,clicked,same⟩
    · rw [missing] at answered
      contradiction
    · rw [same] at answered
      cases answered
      rw [add1Text] at wrote
      exact ⟨typed,clicked,wrote.symm⟩

theorem fromTurn (read : R.Documented) (law : T.Documented R) (start : FromClicks R F admits T p [] p)
    (events : List AddHappening) :
    FromClicks R F admits T p events (final (turn R F admits T) p events) := by
  induction events using List.reverseRecOn with
  | nil => exact start
  | append_singleton events h ih =>
    have later := fromLater ih h
    rw [finalSnoc]
    cases h with
    | type text => exact ⟨later.calls,later.responses,later.result⟩
    | click =>
      refine ⟨fun c mem => ?_,later.responses,later.result⟩
      rcases List.mem_append.mp mem with before | new
      · exact later.calls c before
      · exact ⟨_,⟨events,List.prefix_refl _,rfl⟩,List.mem_singleton.mp new⟩
    | serve n sess o => exact (fromServed read law later n sess o).1
    | respond n => exact fromResponse law later n
    | callLost n => exact ⟨fun c mem => later.calls c (List.mem_of_mem_eraseIdx mem),later.responses,later.result⟩
    | responseLost n => exact ⟨later.calls,fun a mem => later.responses a (List.mem_of_mem_eraseIdx mem),later.result⟩
    | elsewhere e => exact ⟨later.calls,later.responses,later.result⟩

theorem turnEvent (read : R.Documented) (law : T.Documented R) (from_ : FromClicks R F admits T p events q)
    (h : AddHappening) : (turn R F admits T q h).1.server = moved (step R F admits) q.server h.event? := by
  cases h with
  | type text => rfl
  | click => rfl
  | serve n sess o => exact (fromServed read law from_ n sess o).2
  | respond n =>
    simp only [turn]
    cases (q.responses[n]?.bind T.receive).bind shownText <;> rfl
  | callLost n => rfl
  | responseLost n => rfl
  | elsewhere e => rfl

variable (F admits) in
/-- What the page shows is a clicked value counted up by one, and the page leaves the
server as its other events make it. -/
theorem add1FromClicks (read : R.Documented) (law : T.Documented R) (opened : p.calls = [] ∧ p.responses = [])
    (blank : p.result = none) (events : List AddHappening) :
    ((final (turn R F admits T) p events).result = none ∨ ∃ past typed, past ++ [.click] <+: events ∧
      (final (turn R F admits T) p past).typed = typed ∧
      (final (turn R F admits T) p events).result = some (toString ((counted typed + 1) % 2^32))) ∧
    (final (turn R F admits T) p events).server =
      final (step R F admits) p.server (events.filterMap AddHappening.event?) := by
  have start : FromClicks R F admits T p [] p :=
    ⟨by simp [opened.1],by simp [opened.2],Or.inl blank⟩
  refine ⟨(fromTurn read law start events).result.imp_right fun found => ?_,?_⟩
  · obtain ⟨typed,⟨past,before,same⟩,shown⟩ := found
    exact ⟨past,typed,before,same,shown⟩
  · induction events using List.reverseRecOn with
    | nil => rfl
    | append_singleton events h ih =>
      rw [finalSnoc,turnEvent read law (fromTurn read law start events) h,ih,List.filterMap_append,finalAppend]
      cases found : h.event? <;> simp only [List.filterMap_cons,List.filterMap_nil,found,moved,final]

end Runs

def addBlank : AddPage (List (String × Socket)) := ⟨onePostUp,"",none,[],[]⟩

-- Two values are asked for, and the answers come the other way round.
def addLate : List AddHappening :=
  [.type "4294967295",.click,.type "41",.click,.serve 1 ⟨"eva","2",["stats"]⟩ ⟨⟨true,"",0,"t1",true⟩,.delivers⟩,
   .serve 0 ⟨"eva","2",["stats"]⟩ ⟨⟨true,"",0,"t1",true⟩,.delivers⟩,.respond 0,.respond 0]

theorem add1FromClicksThere :
    ∃ past typed, past ++ [.click] <+: addLate ∧
      (final (turn Readers.plain FastRPC.registry admitsAll Transport.plain) addBlank past).typed = typed ∧
      some (toString ((counted typed + 1) % 2^32)) = some "0" := by
  have shown : (final (turn Readers.plain FastRPC.registry admitsAll Transport.plain) addBlank addLate).result =
      some "0" := by decide +kernel
  rcases (add1FromClicks FastRPC.registry admitsAll (p := addBlank) Readers.plainDocumented
    Transport.plainDocumented ⟨rfl,rfl⟩ rfl addLate).1 with blank | ⟨past,typed,before,same,result⟩
  · exact absurd (shown.symm.trans blank) (Option.some_ne_none _)
  · exact ⟨past,typed,before,same,result.symm.trans shown⟩

end HelloMantids
