import HelloMantids.Html
import HelloMantids.JsNumber

/-! The page of messages: its fixed elements, and the script that draws the rows of a
listing into `messageList`. The blanks between fixed elements are left out, as are the
scripts' own texts. The template is cut where the id is inserted. -/
namespace HelloMantids
open Dom Html JsNumber

def el (tag : String) (attrs : List (String × String)) (children : List Nodes) : Nodes :=
  .element tag attrs (Nodes.concat children) .nil

def navbar : Nodes :=
  el "header" []
    [el "nav" [("class","navbar navbar-expand-md navbar-dark fixed-top bg-dark")]
      [el "a" [("class","navbar-brand"),("href","/dashboard")]
        [el "img" [("src","assets/images/logo-b.png"),("height","32")] []],
       el "button" [("class","navbar-toggler"),("type","button"),("data-toggle","collapse"),
          ("data-target","#navbarCollapse"),("aria-controls","navbarCollapse"),("aria-expanded","false"),
          ("aria-label","Toggle navigation")]
        [el "span" [("class","navbar-toggler-icon")] []],
       el "div" [("class","collapse navbar-collapse"),("id","navbarCollapse")]
        [el "ul" [("class","navbar-nav ml-auto")]
          [el "li" [("class","nav-item active")]
            [el "div" [("class","nav-link"),("id","welcome")] [.plain "Welcome"]],
           el "li" [("class","nav-item active")] [el "div" [("class","nav-link")] [.plain "-"]],
           el "li" [("class","nav-item dropdown")]
            [el "a" [("class","nav-link dropdown-toggle"),("href","#"),("id","dropdown01"),
                ("data-toggle","dropdown"),("aria-haspopup","true"),("aria-expanded","false")] [.plain "Main"],
             el "div" [("class","dropdown-menu dropdown-menu-right"),("aria-labelledby","dropdown_main"),
                ("id","dropdown_main")]
              [el "a" [("class","dropdown-item"),("href","/page1")] [.plain "Page 1"],
               el "a" [("class","dropdown-item"),("href","/page2")] [.plain "Page 2"]]],
           el "li" [("class","nav-item dropdown")]
            [el "a" [("class","nav-link dropdown-toggle"),("href","#"),("id","dropdown01"),
                ("data-toggle","dropdown"),("aria-haspopup","true"),("aria-expanded","false")] [.plain "Account"],
             el "div" [("class","dropdown-menu dropdown-menu-right"),("aria-labelledby","dropdown01")]
              [el "a" [("class","dropdown-item"),("href","/secrets")] [.plain "Change Password"],
               el "a" [("class","dropdown-item"),("onclick","javascript:logout()")] [.plain "Logout"]]]]]]]

def appTitle : Nodes :=
  el "span" [("id","apptitlemaster")]
    [el "center" []
      [el "h4" [("style","color: black;"),("id","apptitle")] [.plain "Main Pages ► >>> Page 1 <<< "]],
     el "hr" [] []]

def messageForm : Nodes :=
  el "table" [("width","50%"),("align","center")]
    [el "tbody" [] [el "tr" [] [el "td" [("align","center")]
      [.plain "Create your own message:",el "hr" [] [],
       el "input" [("type","text"),("id","message"),("width","100%")] [],
       el "input" [("type","button"),("value","add"),("onclick","javascript:addMessage();")] []]]]]

def footer : Nodes :=
  Nodes.concat
    [el "footer" [("class","footer")]
      [el "center" []
        [el "span" [("class","text-muted")] [.plain " Hello Mantids"],
         el "span" [("id","version")] [.plain " "],
         el "span" []
          [.plain "- ",el "a" [("href","https://www.github.com/unmanarc/libMantids")]
            [.plain "Go To libMantids Website..."]]]],
     el "script" [("src","assets/js/bootstrap.min.js")] []]

def around : List Frame :=
  [⟨navbar,"main",[("role","main"),("style","padding-top: 68px")],footer⟩,
   ⟨Nodes.concat [appTitle,el "script" [] [],messageForm,el "hr" [] []],
     "table",[("width","50%"),("align","center")],.nil⟩,
   ⟨.nil,"tbody",[],.nil⟩,⟨.nil,"tr",[],.nil⟩,⟨.nil,"td",[("align","center")],.nil⟩]

def messageList : Frame := ⟨.nil,"div",[("id","messageList")],.nil⟩

def page1 (messages : Nodes) : Nodes := plug (around ++ [messageList]) messages

/-! The script. -/
structure Message where
  id : Nat
  whole : Whole id
  message : String
  createdBy : String
  creationDate : String

def templateOwner : String := "
                            <b>Owner:</b> <span id=\"owner"
def templateDate : String := "\"></span><br>
                            <b>Date:</b> <span id=\"date"
def templateMessage : String := "\"></span><br>
                            <b>Message:</b> <span id=\"message"
def templateButton : String := "\"></span><br>
                            <input type=button value=remove onclick=\"javascript:removeMessage("
def templateEnd : String := ");\">
                            <hr>
                            "

def template (messageId : String) : String :=
  templateOwner ++ messageId ++ templateDate ++ messageId ++ templateMessage ++ messageId ++
    templateButton ++ messageId ++ templateEnd

def innerHTML (id html : String) (doc : Nodes) : Option Nodes :=
  (parse html).map fun nodes => doc.change id fun _ => nodes

def appendHTML (id html : String) (doc : Nodes) : Option Nodes :=
  (parse html).map fun nodes => doc.change id fun children => children.append nodes

def setText (id s : String) (doc : Nodes) : Nodes := doc.change id fun _ => .plain s

def drawMessage (msg : Message) (doc : Nodes) : Option Nodes :=
  let messageId := (parseInt (wholeText msg.id)).text
  (appendHTML "messageList" (template messageId) doc).map fun doc =>
    setText ("message" ++ messageId) msg.message
      (setText ("date" ++ messageId) msg.creationDate
        (setText ("owner" ++ messageId) msg.createdBy doc))

def drawRows : List (Option Message) → Nodes → Option Nodes
  | [],doc => some doc
  | none::rest,doc => drawRows rest doc
  | some msg::rest,doc => (drawMessage msg doc).bind (drawRows rest)

-- None where some markup is outside the fragments that are parsed here.
def drawMessages (result : Option (List (Option Message))) (doc : Nodes) : Option Nodes :=
  (innerHTML "messageList" "There are no messages in the database!" doc).bind fun doc =>
    match result with
    | none => some doc
    | some rows => (innerHTML "messageList" "" doc).bind (drawRows rows)

def removeCall (code : String) : Option Nat :=
  let call := "javascript:removeMessage(".toList
  let argument := code.toList.drop call.length
  if code.toList.take call.length = call ∧ argument.dropWhile Char.isDigit = [')',';'] then
    match parseInt (String.ofList argument) with
    | .whole n => some n
    | _ => none
  else none

/-! What the template parses to. -/
def indent : String := "
                            "

def block (t : String) (owner date message : Nodes) : Nodes :=
  Nodes.concat
    [.plain indent,el "b" [] [.plain "Owner:"],.plain " ",el "span" [("id","owner" ++ t)] [owner],el "br" [] [],
     .plain indent,el "b" [] [.plain "Date:"],.plain " ",el "span" [("id","date" ++ t)] [date],el "br" [] [],
     .plain indent,el "b" [] [.plain "Message:"],.plain " ",el "span" [("id","message" ++ t)] [message],
     el "br" [] [],.plain indent,
     el "input" [("type","button"),("value","remove"),
       ("onclick","javascript:removeMessage(" ++ t ++ ");")] [],
     .plain indent,el "hr" [] [],.plain indent]

def within (tag : String) (attrs : List (String × String)) (name : String) (value : List Char) : State :=
  .quoted ⟨false,tag.toList,attrs⟩ name.toList '"' value

section Pieces
variable (v : List Char)
set_option maxRecDepth 4000

theorem ownerPiece : run (.data []) templateOwner.toList =
    (within "span" [] "id" "owner".toList,
      [.text indent,.startTag "b" [],.text "Owner:",.endTag "b",.text " "]) := (rfl)

theorem datePiece : run (within "span" [] "id" v) templateDate.toList =
    (within "span" [] "id" "date".toList,
      [.startTag "span" [("id",String.ofList v)],.endTag "span",.startTag "br" [],
       .text indent,.startTag "b" [],.text "Date:",.endTag "b",.text " "]) := (rfl)

theorem messagePiece : run (within "span" [] "id" v) templateMessage.toList =
    (within "span" [] "id" "message".toList,
      [.startTag "span" [("id",String.ofList v)],.endTag "span",.startTag "br" [],
       .text indent,.startTag "b" [],.text "Message:",.endTag "b",.text " "]) := (rfl)

theorem buttonPiece : run (within "span" [] "id" v) templateButton.toList =
    (within "input" [("type","button"),("value","remove")] "onclick" "javascript:removeMessage(".toList,
      [.startTag "span" [("id",String.ofList v)],.endTag "span",.startTag "br" [],.text indent]) := (rfl)

theorem endPiece : run (within "input" [("type","button"),("value","remove")] "onclick" v) templateEnd.toList =
    (.data indent.toList,
      [.startTag "input" [("type","button"),("value","remove"),("onclick",String.ofList (v ++ [')',';']))],
       .text indent,.startTag "hr" []]) := by
  have shape : v ++ [')',';'] = (v ++ [')']) ++ [';'] := by simp
  rw [shape]
  rfl
end Pieces

theorem runWithin {tag : String} {attrs : List (String × String)} {name : String} {value chars : List Char}
    (safe : ∀ c ∈ chars, c ≠ '"' ∧ c ≠ '&') :
    run (within tag attrs name value) chars = (within tag attrs name (value ++ chars),[]) :=
  runQuoted safe

theorem parseTemplate {t : String} (safe : ∀ c ∈ t.toList, c ≠ '"' ∧ c ≠ '&') :
    parse (template t) = some (block t .nil .nil .nil) := by
  have span (name : String) : String.ofList (name.toList ++ t.toList) = name ++ t := by simp
  have code : String.ofList ("javascript:removeMessage(".toList ++ t.toList ++ [')',';']) =
      "javascript:removeMessage(" ++ t ++ ");" := by
    have tail : [')',';'] = ");".toList := rfl
    rw [tail,String.ofList_append,String.ofList_append]
    simp only [String.ofList_toList]
  have last : textToken indent.toList = [.text indent] := rfl
  simp only [parse,template,String.toList_append,runAppend,ownerPiece,datePiece,messagePiece,buttonPiece,
    endPiece,runWithin safe,span,code,finish,last,Option.bind_some]
  have b : "b" ∉ voidElements ∧ "b" ∈ plainElements := by decide
  have s : "span" ∉ voidElements ∧ "span" ∈ plainElements := by decide
  have void : "br" ∈ voidElements ∧ "input" ∈ voidElements ∧ "hr" ∈ voidElements := by decide
  simp only [List.cons_append,List.nil_append,build,if_neg b.1,if_pos b.2,if_neg s.1,if_pos s.2,
    if_pos void.1,if_pos void.2.1,if_pos void.2.2,if_true]
  simp [block,el,Nodes.concat,Nodes.append,Nodes.plain,indent]

end HelloMantids
