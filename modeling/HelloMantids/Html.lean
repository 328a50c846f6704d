import HelloMantids.Dom

/-! Markup fragments: the tokens of the HTML standard's state machine and the nodes
they build. Character references, comments, self-closing tags, misnested tags and
elements with rules of their own are outside this part of the language: a fragment
that uses one has no parse here. -/
namespace HelloMantids.Html
open Dom

inductive Token where
  | text (content : String)
  | startTag (name : String) (attrs : List (String × String))
  | endTag (name : String)
  deriving DecidableEq, Repr

structure Tag where
  closing : Bool
  name : List Char
  attrs : List (String × String)
  deriving DecidableEq, Repr

inductive State where
  | data (text : List Char)
  | tagOpen
  | endTagOpen
  | tagName (closing : Bool) (name : List Char)
  | beforeName (tag : Tag)
  | attrName (tag : Tag) (name : List Char)
  | afterName (tag : Tag) (name : List Char)
  | beforeValue (tag : Tag) (name : List Char)
  | quoted (tag : Tag) (name : List Char) (quote : Char) (value : List Char)
  | unquoted (tag : Tag) (name value : List Char)
  | afterValue (tag : Tag)
  | outside
  deriving DecidableEq, Repr

def blank (c : Char) : Bool := c = ' ' || c = '\n' || c = '\t' || c = '\x0c'

def Tag.add (tag : Tag) (name value : List Char) : Tag :=
  if (tag.attrs.lookup (String.ofList name)).isSome then tag
  else {tag with attrs := tag.attrs ++ [(String.ofList name,String.ofList value)]}

def Tag.token (tag : Tag) : Token :=
  if tag.closing then .endTag (String.ofList tag.name)
  else .startTag (String.ofList tag.name) tag.attrs

def textToken : List Char → List Token
  | [] => []
  | c::rest => [.text (String.ofList (c::rest))]

def step : State → Char → State × List Token
  | .data text,c =>
      if c = '<' then (.tagOpen,textToken text)
      else if c = '&' then (.outside,[])
      else (.data (text ++ [c]),[])
  | .tagOpen,c =>
      if c = '/' then (.endTagOpen,[])
      else if c.isAlpha then (.tagName false [c.toLower],[])
      else (.outside,[])
  | .endTagOpen,c => if c.isAlpha then (.tagName true [c.toLower],[]) else (.outside,[])
  | .tagName closing name,c =>
      if blank c then (.beforeName ⟨closing,name,[]⟩,[])
      else if c = '>' then (.data [],[Tag.token ⟨closing,name,[]⟩])
      else if c = '/' then (.outside,[])
      else (.tagName closing (name ++ [c.toLower]),[])
  | .beforeName tag,c =>
      if blank c then (.beforeName tag,[])
      else if c = '>' then (.data [],[tag.token])
      else if c = '/' || c = '=' then (.outside,[])
      else (.attrName tag [c.toLower],[])
  | .attrName tag name,c =>
      if blank c then (.afterName tag name,[])
      else if c = '=' then (.beforeValue tag name,[])
      else if c = '>' then (.data [],[(tag.add name []).token])
      else if c = '/' then (.outside,[])
      else (.attrName tag (name ++ [c.toLower]),[])
  | .afterName tag name,c =>
      if blank c then (.afterName tag name,[])
      else if c = '=' then (.beforeValue tag name,[])
      else if c = '>' then (.data [],[(tag.add name []).token])
      else if c = '/' then (.outside,[])
      else (.attrName (tag.add name []) [c.toLower],[])
  | .beforeValue tag name,c =>
      if blank c then (.beforeValue tag name,[])
      else if c = '"' || c = '\'' then (.quoted tag name c [],[])
      else if c = '>' || c = '&' then (.outside,[])
      else (.unquoted tag name [c],[])
  | .quoted tag name quote value,c =>
      if c = quote then (.afterValue (tag.add name value),[])
      else if c = '&' then (.outside,[])
      else (.quoted tag name quote (value ++ [c]),[])
  | .unquoted tag name value,c =>
      if blank c then (.beforeName (tag.add name value),[])
      else if c = '>' then (.data [],[(tag.add name value).token])
      else if c = '&' then (.outside,[])
      else (.unquoted tag name (value ++ [c]),[])
  | .afterValue tag,c =>
      if blank c then (.beforeName tag,[])
      else if c = '>' then (.data [],[tag.token])
      else (.outside,[])
  | .outside,_ => (.outside,[])

def run : State → List Char → State × List Token
  | s,[] => (s,[])
  | s,c::rest =>
      let moved := step s c
      let later := run moved.1 rest
      (later.1,moved.2 ++ later.2)

def finish : State → Option (List Token)
  | .data text => some (textToken text)
  | _ => none

def voidElements : List String :=
  ["area","base","br","col","embed","hr","img","input","link","meta","source","track","wbr"]

-- Elements that, when properly nested, go where they stand.
def plainElements : List String := ["b","div","em","i","small","span","strong","u"]

def build : List Token → List (String × List (String × String) × Nodes) → Nodes → Option Nodes
  | [],[],done => some done
  | [],_::_,_ => none
  | .text s::rest,opened,done => build rest opened (done.append (.text s .nil))
  | .startTag name attrs::rest,opened,done =>
      if name ∈ voidElements then build rest opened (done.append (.element name attrs .nil .nil))
      else if name ∈ plainElements then build rest ((name,attrs,done)::opened) .nil
      else none
  | .endTag name::rest,(tag,attrs,before)::opened,done =>
      if name = tag then build rest opened (before.append (.element tag attrs done .nil)) else none
  | .endTag _::_,[],_ => none

def parse (html : String) : Option Nodes :=
  let read := run (.data []) html.toList
  (finish read.1).bind fun last => build (read.2 ++ last) [] .nil

/-! Fragments are read piece by piece. -/
theorem runAppend (s : State) (xs ys : List Char) :
    run s (xs ++ ys) = ((run (run s xs).1 ys).1,(run s xs).2 ++ (run (run s xs).1 ys).2) := by
  induction xs generalizing s with
  | nil => rfl
  | cons c rest ih => simp only [List.cons_append,run,ih,List.append_assoc]

theorem runQuoted {tag : Tag} {name value chars : List Char} {quote : Char}
    (safe : ∀ c ∈ chars, c ≠ quote ∧ c ≠ '&') :
    run (.quoted tag name quote value) chars = (.quoted tag name quote (value ++ chars),[]) := by
  induction chars generalizing value with
  | nil => simp [run]
  | cons c rest ih =>
    obtain ⟨here,later⟩ := List.forall_mem_cons.mp safe
    simp only [run,step,if_neg here.1,if_neg here.2,ih later,List.append_assoc,List.singleton_append,
      List.nil_append]

theorem runData (text : List Char) {chars : List Char} (safe : ∀ c ∈ chars, c ≠ '<' ∧ c ≠ '&') :
    run (.data text) chars = (.data (text ++ chars),[]) := by
  induction chars generalizing text with
  | nil => simp [run]
  | cons c rest ih =>
    obtain ⟨here,later⟩ := List.forall_mem_cons.mp safe
    simp only [run,step,if_neg here.1,if_neg here.2,ih (text ++ [c]) later,List.append_assoc,List.singleton_append,
      List.nil_append]

theorem parseText {s : String} (safe : ∀ c ∈ s.toList, c ≠ '<' ∧ c ≠ '&') :
    parse s = some (Nodes.plain s) := by
  have read := runData [] safe
  simp only [parse,read,finish,Option.bind_some,List.nil_append]
  cases chars : s.toList with
  | nil =>
    have empty : s = "" := String.toList_eq_nil_iff.mp chars
    simp [textToken,build,Nodes.plain,empty]
  | cons c rest =>
    have nonempty : s ≠ "" := fun empty => by simp [empty] at chars
    have whole : String.ofList (c::rest) = s := by rw [← chars,String.ofList_toList]
    simp [textToken,build,Nodes.plain,nonempty,whole,Nodes.append]

end HelloMantids.Html
