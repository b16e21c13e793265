import ExactCover.Text.Blank

/-!
# Line ends

A line ends with a line feed, with a carriage return, or with both in this order. Reading a text
file turns all of them into line feeds.
-/

set_option autoImplicit false

namespace ExactCover.Text

/-- Writes every line end as a line feed. -/
def withLineFeeds : List Char → List Char
  | [] => []
  | '\r' :: '\n' :: rest => '\n' :: withLineFeeds rest
  | '\r' :: rest => '\n' :: withLineFeeds rest
  | character :: rest => character :: withLineFeeds rest

/-- The lines of a text, without their ends. -/
def lines (characters : List Char) : List (List Char) := split '\n' (withLineFeeds characters)

/-- No carriage return is left. -/
theorem not_mem_withLineFeeds (characters : List Char) : '\r' ∉ withLineFeeds characters := by
  fun_induction withLineFeeds characters with
  | case1 => simp
  | case2 rest ih => simpa using ih
  | case3 rest other ih => simpa using ih
  | case4 character rest plain other ih => grind

end ExactCover.Text
