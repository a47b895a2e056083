/-!
# The order of texts

Texts are ordered character by character, by code point, and a text comes before its extensions.
Lists of names are reported in this order.
-/

namespace GaussMarkup

/-- Whether `s` comes before `t` or is the same text. -/
def textLe (s t : List Char) : Bool :=
  !t.lex s (· < ·)

/-- Texts in order; equal ones stay. -/
def sortTexts (ts : List (List Char)) : List (List Char) :=
  ts.mergeSort textLe

theorem mem_sortTexts {t : List Char} {ts : List (List Char)} : t ∈ sortTexts ts ↔ t ∈ ts :=
  List.mem_mergeSort

end GaussMarkup
