import StringCalculator.Number

/-!
# JSON values

The values of a JSON text, as far as settings and evaluations need them.

Two shape decisions keep a distinction that the text makes and plain values would lose:

* a string literal may hold an escape for half a surrogate pair only. Such a literal is well formed
  but spells no text, so a string holds an optional text, and so does the name of a member;
* a number literal is either an integer, of any size, or `decimal`: one with a fraction or an
  exponent, or negative zero. The value of a decimal is never needed, since no setting takes one.

Members keep their order, and a name may occur twice: refusing that is up to whoever reads a record.
-/

namespace StringCalculator

/-- A JSON value. -/
inductive Json where
  /-- The literal `null`. -/
  | null
  /-- One of the literals `true` and `false`. -/
  | bool (value : Bool)
  /-- An integer literal other than negative zero. -/
  | integer (value : Int)
  /-- Any other number literal. -/
  | decimal
  /-- A string literal, with the text it spells, if it spells one. -/
  | string (text : Option String)
  /-- An array. -/
  | array (elements : List Json)
  /-- An object: its members in order, each with its name, if the name spells a text. -/
  | object (members : List (Option String × Json))

namespace Json

instance : Inhabited Json :=
  ⟨null⟩

/-! ### Reading values of one kind -/

/-- The truth value of a literal `true` or `false`. -/
def bool? : Json → Option Bool
  | bool b => some b
  | _ => none

/-- The number of an integer literal in range. -/
def number? : Json → Option Number
  | integer n => Number.ofInt? n
  | _ => none

/-- The text of a string literal. -/
def text? : Json → Option String
  | string s => s
  | _ => none

/-- The elements of an array, each read alike. If one cannot be read, neither can the array. -/
def list? {α : Type} (read? : Json → Option α) : Json → Option (List α)
  | array elements => elements.mapM read?
  | _ => none

/-! ### Records

A record has a fixed list of field names. It is written as an object, whose other members are
strangers and do not count, or as an array of the fields in their order, where later ones may be
left out. -/

/-- The value of the first member with a given name. -/
def member? (name : String) (members : List (Option String × Json)) : Option Json :=
  (members.find? fun m ↦ m.1 == some name).map (·.2)

/-- Whether every name spells a text, and none of the given names stands twice. -/
def wellNamed (names : List String) (members : List (Option String × Json)) : Bool :=
  members.all (fun m ↦ m.1.isSome) &&
    names.all fun name ↦ decide (members.countP (fun m ↦ m.1 == some name) ≤ 1)

/-- What a record gives for each of its field names, in their order. -/
def fields? (names : List String) : Json → Option (List (Option Json))
  | object members =>
    if wellNamed names members then some (names.map fun name ↦ member? name members) else none
  | array elements =>
    if elements.length ≤ names.length then
      some (elements.map some ++ List.replicate (names.length - elements.length) none)
    else none
  | _ => none

/-- What a field holds, with a default for a field that is left out. -/
def fieldOr {α : Type} (default : α) (read? : Json → Option α) : Option Json → Option α
  | none => some default
  | some j => read? j

end Json

end StringCalculator
