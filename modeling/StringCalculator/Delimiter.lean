/-!
# Delimiters

A text is cut at any of a list of delimiters. Where several of them begin at one place the longest
is meant, so that `**` is found although `*` is a delimiter too. The list is therefore brought into
an order of precedence first: longer delimiters before shorter ones, and between two of one length
the one with the smaller bytes. Only what is in the list counts, not where or how often, and an
empty delimiter never counts. In that order the first delimiter a text begins with is the longest
one.

Cutting keeps empty pieces, so that `k` cuts always give `k + 1` pieces and no piece is lost.
-/

namespace StringCalculator

namespace Delimiter

/-- The bytes of a delimiter in UTF-8. -/
def bytes (d : String) : List UInt8 :=
  d.toUTF8.toList

/-- Whether one delimiter is tried before another: it is longer, or equally long and smaller, both
measured in bytes. -/
def precedes (d e : String) : Bool :=
  decide ((bytes e).length < (bytes d).length) ||
    (decide ((bytes d).length = (bytes e).length) && decide (bytes d < bytes e))

/-- Puts a delimiter in its place, unless it is there already. -/
def insert (d : String) : List String → List String
  | [] => [d]
  | e :: es => if d = e then e :: es else if precedes d e then d :: e :: es else e :: insert d es

/-- The nonempty delimiters of a list, each once, in order of precedence. -/
def ranked (ds : List String) : List String :=
  (ds.filter fun d ↦ !d.isEmpty).foldr insert []

/-- The first of the delimiters that the text begins with. -/
def firstAt? (ds : List (List Char)) (s : List Char) : Option (List Char) :=
  ds.find? fun d ↦ d.isPrefixOf s

/-- Cuts a text at each delimiter found, scanning from the left. Behind a delimiter the scan goes on
after its last character; a delimiter that is found has at least one. -/
def cut (ds : List (List Char)) : List Char → List (List Char)
  | [] => [[]]
  | c :: r =>
    match firstAt? ds (c :: r) with
    | some d => [] :: cut ds (r.drop (d.length - 1))
    | none => (cut ds r).modifyHead (c :: ·)
termination_by s => s.length
decreasing_by all_goals simp only [List.length_drop, List.length_cons]; omega

/-- The pieces of a text between the delimiters of a list. -/
def pieces (ds : List String) (text : String) : List String :=
  (cut ((ranked ds).map String.toList) text.toList).map String.ofList

/-- Even the empty text has a piece, the empty one. -/
theorem cut_ne_nil (ds : List (List Char)) (s : List Char) : cut ds s ≠ [] := by
  fun_induction cut ds s with
  | case1 => simp
  | case2 => simp
  | case3 c r _ ih => simpa using ih

end Delimiter

end StringCalculator
