/-!
# Lines of a text

A line ends at a line feed, a carriage return, both together in this order, a vertical tab, a
form feed, one of the separators 0x1C to 0x1E, the next-line character, or the line and paragraph
separators. The end of a line is not part of it, and a text that ends with one has no empty line
after it.
-/

namespace PerlSymbols.Text

def isLineEnd (c : Char) : Bool :=
  (10 ≤ c.toNat && c.toNat ≤ 13) || (0x1C ≤ c.toNat && c.toNat ≤ 0x1E)
    || c.toNat == 0x85 || c.toNat == 0x2028 || c.toNat == 0x2029

/-- The first line and what stands after its end; `none` for the empty text. -/
def splitLine : List Char → Option (List Char × List Char)
  | [] => none
  | '\r' :: '\n' :: rest => some ([], rest)
  | c :: rest =>
    if isLineEnd c then some ([], rest)
    else match splitLine rest with
      | none => some ([c], [])
      | some (line, after) => some (c :: line, after)

theorem splitLine_shorter : ∀ {cs line after : List Char},
    splitLine cs = some (line, after) → after.length < cs.length := by
  intro cs
  fun_induction splitLine cs with
  | case1 => simp
  | case2 rest =>
    intro line after h
    simp only [Option.some.injEq, Prod.mk.injEq] at h
    rw [← h.2, List.length_cons, List.length_cons]
    omega
  | case3 c rest _ _ =>
    intro line after h
    simp only [Option.some.injEq, Prod.mk.injEq] at h
    simp [← h.2]
  | case4 c rest _ _ _ _ =>
    intro line after h
    simp only [Option.some.injEq, Prod.mk.injEq] at h
    simp [← h.2]
  | case5 c rest _ _ line' after' heq ih =>
    intro line after h
    simp only [Option.some.injEq, Prod.mk.injEq] at h
    have := ih heq
    rw [← h.2, List.length_cons]
    omega

/-- The lines of a text, in order, without their ends. -/
def lines (cs : List Char) : List (List Char) :=
  match h : splitLine cs with
  | none => []
  | some (line, after) =>
    have := splitLine_shorter h
    line :: lines after
termination_by cs.length

end PerlSymbols.Text
