import MediaSocket.Binary64
import MediaSocket.Log.Level
import MediaSocket.Log.Pattern
import MediaSocket.Text.Slice

/-!
Directives: each lets events up to some level through. It may ask for the start of an event's
target, for the name of a span around it, and for a field, perhaps with a value:
`target[span{field=value}]=level`. All parts may be left out, not all of them at once.
-/

namespace MediaSocket.Log

open Text (isBlank isAlphanumeric byteSize seek)

/-- Up to which level events are let through; `none` lets nothing through. -/
abbrev Threshold := Option Level

/-- The threshold with this name, in any case, or with this number. -/
def threshold? (text : List Char) : Option Threshold :=
  if text.map Char.toLower = "off".toList ∨ unsigned? text = some 0 then some none
  else (Level.ofText? (String.ofList text)).map some

def thresholdName : Threshold → String
  | none => "off"
  | some level => level.name

/-! ### Values of fields -/

inductive FieldValue where
  | boolean (b : Bool)
  | float (x : Binary64)
  | unsigned (n : Nat)
  | signed (n : Int)
  | pattern (text : List Char)
  deriving DecidableEq, Repr

namespace FieldValue

/-- A negative number of 64 bits. -/
def negative? (text : List Char) : Option Int :=
  match text with
  | '-' :: digits =>
    (Text.whole (Text.numeral ⟨10, none, true, 9223372036854775809⟩) digits).map fun n => -n
  | _ => none

/-- The value that a text stands for: a truth value, a number or a pattern, whatever fits first. -/
def ofText? (text : List Char) : Option FieldValue :=
  if text = "true".toList then some (.boolean true)
  else if text = "false".toList then some (.boolean false)
  else
    ((unsigned? text).map .unsigned).orElse fun _ =>
      ((negative? text).map .signed).orElse fun _ =>
        ((Binary64.ofText? text).map .float).orElse fun _ =>
          if Pattern.isPattern text then some (.pattern text) else none

def text : FieldValue → List Char
  | .boolean b => (if b then "true" else "false").toList
  | .float x => x.text
  | .unsigned n => Text.decimal n
  | .signed n => (toString n).toList
  | .pattern text => text

/-- The place of a kind of value among the kinds. -/
def kind : FieldValue → Nat
  | .boolean _ => 0
  | .float _ => 1
  | .unsigned _ => 2
  | .signed _ => 3
  | .pattern _ => 4

def order (a b : FieldValue) : Ordering :=
  match a, b with
  | .boolean a, .boolean b => compare a b
  | .float a, .float b => compare a.place b.place
  | .unsigned a, .unsigned b => compare a b
  | .signed a, .signed b => compare a b
  | .pattern a, .pattern b => compare a b
  | a, b => compare a.kind b.kind

end FieldValue

structure FieldMatch where
  name : List Char
  value : Option FieldValue
  deriving DecidableEq, Repr

namespace FieldMatch

/-- The field that a text describes: a name, and a value after `=`. What follows a second `=` does
not matter. -/
def ofText? (text : List Char) : Option FieldMatch :=
  let name := text.takeWhile (· != '=')
  if text.isEmpty then none
  else
    match text.dropWhile (· != '=') with
    | [] => some ⟨name, none⟩
    | _ :: rest =>
      (FieldValue.ofText? (rest.takeWhile (· != '='))).map fun value => ⟨name, some value⟩

def text (f : FieldMatch) : List Char :=
  match f.value with
  | none => f.name
  | some value => f.name ++ '=' :: value.text

/-- The order of fields: those without a value first, then by name, then by value. -/
def order (a b : FieldMatch) : Ordering :=
  match a.value, b.value with
  | none, none => compare a.name b.name
  | none, some _ => .lt
  | some _, none => .gt
  | some v, some w => (compare a.name b.name).then (v.order w)

end FieldMatch

/-! ### Directives -/

/-- What events have to be like, and up to which level they are then let through. -/
structure Directive where
  /-- What the target of an event has to start with. -/
  target : Option (List Char) := none
  /-- The name of the span that an event has to happen in. -/
  span : Option (List Char) := none
  field : Option FieldMatch := none
  threshold : Threshold := some .trace
  deriving DecidableEq, Repr

namespace Directive

/-- Whether a character may start a directive without brackets in front. -/
def isStart (c : Char) : Bool := c == '-' || c == ':' || c == '_' || isAlphanumeric c

/-- A text without the blanks around it. -/
def trim (text : List Char) : List Char :=
  ((text.dropWhile isBlank).reverse.dropWhile isBlank).reverse

/-- The directive with a level that starts at a place; no level lets everything through. -/
def withLevel? (text : List Char) (d : Directive) (place : Nat) : Option Directive := do
  match ← Text.drop? place text with
  | [] => return d
  | level => return { d with threshold := ← threshold? level }

def afterBrackets? (text : List Char) (d : Directive) (place : Nat) :
    List Char → Option Directive
  | [] => some d
  | '=' :: _ => withLevel? text d (place + 1)
  | _ => none

/-- The directive with what its brackets hold and what follows them. -/
def brackets? (text : List Char) (d : Directive) (place : Nat) (cs : List Char) :
    Option Directive := do
  let (stop, rest) := seek (fun c => c == ']' || c == '{') place cs
  let name ← Text.slice? place stop text
  match rest with
  | ']' :: rest => afterBrackets? text { d with span := some name } (stop + 1) rest
  | '{' :: rest =>
    let (fieldStop, after) := seek (· == '}') (stop + 1) rest
    let field ← FieldMatch.ofText? (← Text.slice? (stop + 1) fieldStop text)
    let span := if name.isEmpty then none else some name
    match after with
    | '}' :: ']' :: rest =>
      afterBrackets? text { d with span, field := some field } (fieldStop + 2) rest
    | _ => none
  | _ => none

/-- The directive that a text without brackets and without `=` describes: a level or a target. -/
def ofWord (text : List Char) : Directive :=
  match threshold? text with
  | some threshold => { threshold }
  | none => { target := some text }

/-- The directive that a text describes. Its parts are found in the text without the blanks around
it, and then taken from the same places of the text itself: blanks in front shift them all. -/
def ofText? (text : List Char) : Option Directive :=
  match trim text with
  | [] => none
  | '[' :: rest => brackets? text {} 1 rest
  | c :: rest =>
    if isStart c then
      match seek (fun c => c == '=' || c == '[') 0 (c :: rest) with
      | (_, []) => some (ofWord text)
      | (stop, mark :: rest) => do
        let d : Directive := { target := some (← Text.slice? 0 stop text) }
        if mark = '=' then withLevel? text d (stop + 1) else brackets? text d (stop + 1) rest
    else none

def braced (field : Option (List Char)) : List Char :=
  match field with
  | none => []
  | some field => '{' :: field ++ ['}']

def text (d : Directive) : List Char :=
  let inner := d.span.getD [] ++ braced (d.field.map FieldMatch.text)
  let brackets := if d.span.isSome || d.field.isSome then '[' :: inner ++ [']'] else []
  let front := d.target.getD [] ++ brackets
  (if d.target.isSome || !brackets.isEmpty then front ++ ['='] else []) ++
    (thresholdName d.threshold).toList

/-- The order of directives, the less specific one first: by the length of the target, by whether
there are a span and a field, then by their texts. -/
def order (a b : Directive) : Ordering :=
  (compare (a.target.map byteSize) (b.target.map byteSize)).then <|
    (compare a.span.isSome b.span.isSome).then <|
    (compare a.field.isSome b.field.isSome).then <|
    (compare a.target b.target).then <|
    (compare a.span b.span).then <|
    match a.field, b.field with
    | some f, some g => f.order g
    | _, _ => .eq

/-- Whether a directive depends on the spans around an event. -/
def isDynamic (d : Directive) : Bool := d.span.isSome || d.field.isSome

end Directive

/-! ### Rules -/

/-- What can be told of an event alone, whatever happens around it. -/
structure Rule where
  target : Option (List Char)
  /-- The name of a field that an event has to have. -/
  field : Option (List Char)
  threshold : Threshold
  deriving DecidableEq, Repr

/-- The rule of a directive that asks neither for a span nor for a value. -/
def Directive.rule? (d : Directive) : Option Rule :=
  match d.span, d.field with
  | none, none => some ⟨d.target, none, d.threshold⟩
  | none, some ⟨name, none⟩ => some ⟨d.target, some name, d.threshold⟩
  | _, _ => none

namespace Rule

def text (r : Rule) : List Char :=
  let brackets := if r.field.isSome then '[' :: Directive.braced r.field ++ [']'] else []
  let front := r.target.getD [] ++ brackets
  (if r.target.isSome || r.field.isSome then front ++ ['='] else []) ++
    (thresholdName r.threshold).toList

def order (a b : Rule) : Ordering :=
  (compare (a.target.map byteSize) (b.target.map byteSize)).then <|
    (compare a.field.isSome b.field.isSome).then <|
    (compare a.target b.target).then (compare a.field b.field)

/-- Whether a rule is about an event with this target and these fields. -/
def fits (r : Rule) (target : List Char) (fields : List (List Char)) : Bool :=
  (r.target.getD []).isPrefixOf target && r.field.all fields.contains

end Rule

end MediaSocket.Log
