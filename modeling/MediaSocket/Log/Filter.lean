import MediaSocket.Log.Directive

/-!
Log filters: directives with commas between them. Of the rules that fit an event, the most specific
one decides. There are no spans in this program, so that a directive which asks for one, or for the
value of a field, lets no event through; it is only written again.
-/

namespace MediaSocket.Log

/-- The rules and the other directives of a filter, the most specific first. A directive that asks
for a field without a value is in both lists. -/
structure Filter where
  rules : List Rule
  dynamic : List Directive
  deriving DecidableEq, Repr

namespace Filter

/-- A list in descending order with one more element; it replaces one that is equal in order. -/
def insert {α : Type} (order : α → α → Ordering) (a : α) : List α → List α
  | [] => [a]
  | b :: rest =>
    match order a b with
    | .gt => a :: b :: rest
    | .eq => a :: rest
    | .lt => b :: insert order a rest

/-- The elements of a list in descending order; of two that are equal in order the later one. -/
def collect {α : Type} (order : α → α → Ordering) (elements : List α) : List α :=
  elements.foldl (fun sorted a => insert order a sorted) []

/-- The filter of some directives. -/
def ofDirectives (ds : List Directive) : Filter :=
  ⟨collect Rule.order (ds.filterMap Directive.rule?),
    collect Directive.order (ds.filter Directive.isDynamic)⟩

/-- A text cut at its commas. -/
def splitCommas : List Char → List (List Char)
  | [] => [[]]
  | c :: rest =>
    if c = ',' then [] :: splitCommas rest
    else
      match splitCommas rest with
      | [] => [[c]]
      | part :: parts => (c :: part) :: parts

/-- The filter that a text describes. Nothing between two commas is no directive. -/
def ofText? (text : String) : Option Filter :=
  let parts := (splitCommas text.toList).filter fun part => !part.isEmpty
  (parts.mapM Directive.ofText?).map ofDirectives

/-- The text of a filter: first the rules, then the other directives. -/
def text (f : Filter) : String :=
  String.ofList ([','].intercalate (f.rules.map Rule.text ++ f.dynamic.map Directive.text))

def passes (f : Filter) (level : Level) (target : String) (fields : List String) : Bool :=
  match f.rules.find? fun r => r.fits target.toList (fields.map String.toList) with
  | some ⟨_, _, some limit⟩ => level.rank ≤ limit.rank
  | _ => false

end Filter

end MediaSocket.Log
