import HelloMantids.Handlers

/-! The login server's static resources, taken over by the loop at the end of the
start-up. Whatever the remote list holds, an element is registered, warned about, or
ends the loop with the library's exception. -/
namespace HelloMantids

structure Loading where
  elements : List (String × String)
  log : List LogLine
  fault : Option Fault
  deriving DecidableEq, Repr

def addingResource (path : String) : LogLine :=
  ⟨"_start","",.info,"Adding web login static resource '%s'",[path]⟩

def badResource (i : Nat) : LogLine :=
  ⟨"_start","",.warn,"Warning: bad static resource (%d)",[toString i]⟩

-- The second member is looked for only after the first is found.
def complete (jContent : Json) : Except Fault Bool :=
  match jContent.isMember "path" with
  | .error fault => .error fault
  | .ok false => .ok false
  | .ok true => jContent.isMember "content"

def loadElement (R : Readers) (i : Nat) (jContent : Json) : Loading :=
  match complete jContent with
  | .error fault => ⟨[],[],some fault⟩
  | .ok false => ⟨[],[badResource i],none⟩
  | .ok true =>
      let path := R.asString jContent "path" ""
      let content := R.asString jContent "content" ""
      ⟨[(path,content)],[addingResource path],none⟩

def loadStatic (R : Readers) : Nat → List Json → Loading
  | _,[] => ⟨[],[],none⟩
  | i,jContent::rest =>
      let here := loadElement R i jContent
      match here.fault with
      | some _ => here
      | none =>
          let later := loadStatic R (i + 1) rest
          ⟨here.elements ++ later.elements,here.log ++ later.log,later.fault⟩

/-! What the loop is for. -/
def resource? (j : Json) : Option (String × String) :=
  match j.find? "path",j.find? "content" with
  | some (.string path),some (.string content) => some (path,content)
  | _,_ => none

def unusable (i : Nat) (staticContent : List Json) : List Nat :=
  ((staticContent.zipIdx i).filter fun e => (resource? e.1).isNone).map Prod.snd

def Loading.warnings (done : Loading) : List LogLine := done.log.filter fun line => line.level = .warn

structure Survives (i : Nat) (staticContent : List Json) (done : Loading) : Prop where
  ends : done.fault = none
  registers : done.elements = staticContent.filterMap resource?
  warns : done.warnings = (unusable i staticContent).map badResource

structure Loadable (j : Json) : Prop where
  keyed : j.Keyed
  strings : (j.find? "path").isSome → (j.find? "content").isSome → (resource? j).isSome

theorem resourceStrings {j : Json} {path content : String} (supplied : resource? j = some (path,content)) :
    j.find? "path" = some (.string path) ∧ j.find? "content" = some (.string content) := by
  unfold resource? at supplied
  split at supplied
  · rename_i p c foundPath foundContent
    cases Option.some.inj supplied
    exact ⟨foundPath,foundContent⟩
  · contradiction

theorem resourceComplete {j : Json} (supplied : (resource? j).isSome) :
    (j.find? "path").isSome ∧ (j.find? "content").isSome := by
  obtain ⟨⟨path,content⟩,found⟩ := Option.isSome_iff_exists.mp supplied
  obtain ⟨p,c⟩ := resourceStrings found
  simp [p,c]

theorem completeKeyed {j : Json} (keyed : j.Keyed) :
    complete j = .ok ((j.find? "path").isSome && (j.find? "content").isSome) := by
  unfold complete
  rw [Json.isMemberKeyed keyed,Json.isMemberKeyed keyed]
  cases (j.find? "path").isSome <;> rfl

section Elements
variable {R : Readers} {i : Nat} {j : Json}

theorem elementThrows (bad : ¬ j.Keyed) : loadElement R i j = ⟨[],[],some .requiresObject⟩ := by
  simp only [loadElement,complete,Json.isMemberNotKeyed bad]

theorem elementRegistered (keyed : j.Keyed) (path : (j.find? "path").isSome)
    (content : (j.find? "content").isSome) :
    loadElement R i j = ⟨[(R.asString j "path" "",R.asString j "content" "")],
      [addingResource (R.asString j "path" "")],none⟩ := by
  simp only [loadElement,completeKeyed keyed,path,content,Bool.and_true]

theorem elementWarned (keyed : j.Keyed)
    (missing : ¬ ((j.find? "path").isSome ∧ (j.find? "content").isSome)) :
    loadElement R i j = ⟨[],[badResource i],none⟩ := by
  have no : ((j.find? "path").isSome && (j.find? "content").isSome) = false := by
    simpa using missing
  simp only [loadElement,completeKeyed keyed,no]

end Elements

theorem shapes (j : Json) : ¬ j.Keyed ∨
    (j.Keyed ∧ (j.find? "path").isSome ∧ (j.find? "content").isSome) ∨
    (j.Keyed ∧ ¬ ((j.find? "path").isSome ∧ (j.find? "content").isSome)) := by
  by_cases keyed : j.Keyed
  · by_cases both : (j.find? "path").isSome ∧ (j.find? "content").isSome
    · exact Or.inr (Or.inl ⟨keyed,both⟩)
    · exact Or.inr (Or.inr ⟨keyed,both⟩)
  · exact Or.inl keyed

section Lists
variable (i : Nat) (j : Json) (rest : List Json)

theorem unusableNone (missing : resource? j = none) :
    unusable i (j::rest) = i::unusable (i + 1) rest := by
  simp [unusable,List.zipIdx_cons,missing]

theorem unusableSome {r : String × String} (supplied : resource? j = some r) :
    unusable i (j::rest) = unusable (i + 1) rest := by
  simp [unusable,List.zipIdx_cons,supplied]

theorem loadThrows {R : Readers} (bad : ¬ j.Keyed) :
    loadStatic R i (j::rest) = ⟨[],[],some .requiresObject⟩ := by
  simp only [loadStatic,elementThrows bad]

theorem loadRegistered (R : Readers) (keyed : j.Keyed) (path : (j.find? "path").isSome)
    (content : (j.find? "content").isSome) :
    (loadStatic R i (j::rest)).fault = (loadStatic R (i + 1) rest).fault ∧
    (loadStatic R i (j::rest)).elements =
      (R.asString j "path" "",R.asString j "content" "")::(loadStatic R (i + 1) rest).elements ∧
    (loadStatic R i (j::rest)).warnings = (loadStatic R (i + 1) rest).warnings := by
  simp [loadStatic,elementRegistered keyed path content,Loading.warnings,addingResource]

theorem loadWarned (R : Readers) (keyed : j.Keyed)
    (missing : ¬ ((j.find? "path").isSome ∧ (j.find? "content").isSome)) :
    (loadStatic R i (j::rest)).fault = (loadStatic R (i + 1) rest).fault ∧
    (loadStatic R i (j::rest)).elements = (loadStatic R (i + 1) rest).elements ∧
    (loadStatic R i (j::rest)).warnings = badResource i::(loadStatic R (i + 1) rest).warnings := by
  simp [loadStatic,elementWarned keyed missing,Loading.warnings,badResource]

end Lists

theorem notComplete {j : Json} (missing : ¬ ((j.find? "path").isSome ∧ (j.find? "content").isSome)) :
    resource? j = none := by
  cases supplied : resource? j with
  | none => rfl
  | some r => exact absurd (resourceComplete (by rw [supplied]; rfl)) missing

theorem warnsAtMost (R : Readers) (i : Nat) (staticContent : List Json) :
    (loadStatic R i staticContent).warnings.length ≤ (unusable i staticContent).length := by
  induction staticContent generalizing i with
  | nil => simp [loadStatic,Loading.warnings]
  | cons j rest ih =>
    have later := ih (i + 1)
    rcases shapes j with bad | ⟨keyed,path,content⟩ | ⟨keyed,missing⟩
    · simp [loadThrows i j rest bad,Loading.warnings]
    · rw [(loadRegistered i j rest R keyed path content).2.2]
      cases supplied : resource? j with
      | none => rw [unusableNone i j rest supplied,List.length_cons]; omega
      | some r => rwa [unusableSome i j rest supplied]
    · rw [(loadWarned i j rest R keyed missing).2.2,unusableNone i j rest (notComplete missing)]
      simpa using later

theorem survivesNil (R : Readers) (i : Nat) : Survives i [] (loadStatic R i []) := ⟨rfl,rfl,rfl⟩

section Cons
variable {R : Readers} (i : Nat) (rest : List Json) {j : Json}

theorem survivesThrows (bad : ¬ j.Keyed) : ¬ Survives i (j::rest) (loadStatic R i (j::rest)) := by
  intro survives
  have ends := survives.ends
  rw [loadThrows i j rest bad] at ends
  contradiction

theorem survivesResource (law : R.Documented) {p c : String} (keyed : j.Keyed)
    (supplied : resource? j = some (p,c)) :
    Survives i (j::rest) (loadStatic R i (j::rest)) ↔
      Survives (i + 1) rest (loadStatic R (i + 1) rest) := by
  obtain ⟨path,content⟩ := resourceComplete (j := j) (by rw [supplied]; rfl)
  obtain ⟨fault,elements,warnings⟩ := loadRegistered i j rest R keyed path content
  obtain ⟨isPath,isContent⟩ := resourceStrings supplied
  rw [law.string "" isPath,law.string "" isContent] at elements
  have expected := List.filterMap_cons_some (f := resource?) (l := rest) supplied
  have numbers := unusableSome i j rest supplied
  constructor
  · intro survives
    refine ⟨fault ▸ survives.ends,?_,?_⟩
    · exact List.cons_injective (by rw [← elements,survives.registers,expected])
    · rw [← warnings,survives.warns,numbers]
  · intro later
    refine ⟨fault ▸ later.ends,?_,?_⟩
    · rw [elements,expected,later.registers]
    · rw [warnings,numbers,later.warns]

/- An element registered without being a resource leaves a warning out, and no later
element makes up for it. -/
theorem survivesUnusable (keyed : j.Keyed) (path : (j.find? "path").isSome)
    (content : (j.find? "content").isSome) (missing : resource? j = none) :
    ¬ Survives i (j::rest) (loadStatic R i (j::rest)) := by
  intro survives
  have warns := congrArg List.length survives.warns
  have most := warnsAtMost R (i + 1) rest
  rw [(loadRegistered i j rest R keyed path content).2.2,unusableNone i j rest missing,List.length_map,
    List.length_cons] at warns
  omega

theorem survivesWarned (keyed : j.Keyed)
    (missing : ¬ ((j.find? "path").isSome ∧ (j.find? "content").isSome)) :
    Survives i (j::rest) (loadStatic R i (j::rest)) ↔
      Survives (i + 1) rest (loadStatic R (i + 1) rest) := by
  obtain ⟨fault,elements,warnings⟩ := loadWarned i j rest R keyed missing
  have expected := List.filterMap_cons_none (f := resource?) (l := rest) (notComplete missing)
  have numbers := unusableNone i j rest (notComplete missing)
  constructor
  · intro survives
    refine ⟨fault ▸ survives.ends,?_,?_⟩
    · rw [← elements,survives.registers,expected]
    · have warns := survives.warns
      rw [warnings,numbers,List.map_cons] at warns
      exact (List.cons.inj warns).2
  · intro later
    refine ⟨fault ▸ later.ends,?_,?_⟩
    · rw [elements,expected,later.registers]
    · rw [warnings,numbers,List.map_cons,later.warns]
end Cons

theorem survivesCons {R : Readers} (law : R.Documented) (i : Nat) (j : Json) (rest : List Json) :
    Survives i (j::rest) (loadStatic R i (j::rest)) ↔
      Loadable j ∧ Survives (i + 1) rest (loadStatic R (i + 1) rest) := by
  rcases shapes j with bad | ⟨keyed,path,content⟩ | ⟨keyed,missing⟩
  · exact iff_of_false (survivesThrows i rest bad) fun loads => bad loads.1.keyed
  · cases supplied : resource? j with
    | none =>
      refine iff_of_false (survivesUnusable i rest keyed path content supplied) fun loads => ?_
      have strings := loads.1.strings path content
      rw [supplied] at strings
      contradiction
    | some r =>
      have loadable : Loadable j := ⟨keyed,fun _ _ => by rw [supplied]; rfl⟩
      rw [survivesResource i rest law keyed supplied]
      exact (and_iff_right loadable).symm
  · have loadable : Loadable j := ⟨keyed,fun path content => absurd ⟨path,content⟩ missing⟩
    rw [survivesWarned i rest keyed missing]
    exact (and_iff_right loadable).symm

theorem survivesExactly {R : Readers} (law : R.Documented) (staticContent : List Json) :
    Survives 0 staticContent (loadStatic R 0 staticContent) ↔ ∀ j ∈ staticContent, Loadable j := by
  have from_ (i : Nat) : Survives i staticContent (loadStatic R i staticContent) ↔
      ∀ j ∈ staticContent, Loadable j := by
    induction staticContent generalizing i with
    | nil => simpa using survivesNil R i
    | cons j rest ih => rw [survivesCons law,ih,List.forall_mem_cons]
  exact from_ 0

theorem survivesMixed :
    Survives 0
      [.object [("path",.string "/a")],.object [("path",.string "/b"),("content",.string "x")],.null]
      (loadStatic Readers.plain 0
        [.object [("path",.string "/a")],.object [("path",.string "/b"),("content",.string "x")],.null]) :=
  (survivesExactly Readers.plainDocumented _).mpr (by
    intro j mem
    simp only [List.mem_cons,List.not_mem_nil,or_false] at mem
    rcases mem with rfl | rfl | rfl
    · exact ⟨rfl,by decide⟩
    · exact ⟨rfl,by decide⟩
    · exact ⟨rfl,by decide⟩)

theorem stringEndsLoading :
    ¬ Survives 0 [.string "/a",.object [("path",.string "/b"),("content",.string "x")]]
      (loadStatic Readers.plain 0
        [.string "/a",.object [("path",.string "/b"),("content",.string "x")]]) := by
  intro survives
  exact absurd survives.ends (by decide)

end HelloMantids
