/-!
# Searching a text

Whether and where a text occurs in another one, and its replacement. Everything is
read from left to right, and what was matched once is not looked at again.
-/

namespace PageLayout.Text

/-- Whether `part` occurs in the text. -/
def occursIn (part : List Char) : List Char → Bool
  | [] => part.isEmpty
  | c :: cs => part.isPrefixOf (c :: cs) || occursIn part cs

/-- Whether `part` occurs in the text. -/
def contains (text part : String) : Bool := occursIn part.toList text.toList

/-- What stands before and behind the first occurrence of `part`. -/
def cutAt? (part : List Char) : List Char → Option (List Char × List Char)
  | [] => if part.isEmpty then some ([], []) else none
  | c :: cs =>
    if part.isPrefixOf (c :: cs) then some ([], (c :: cs).drop part.length)
    else (cutAt? part cs).map fun halves => (c :: halves.1, halves.2)

/-- What stands behind `part` if the text begins with it. -/
def dropPart? (part text : List Char) : Option (List Char) :=
  if part.isPrefixOf text then some (text.drop part.length) else none

/-- Split a text at the characters of some kind. There is one part more than there are
such characters. -/
def splitOn (isSeparator : Char → Bool) : List Char → List (List Char)
  | [] => [[]]
  | c :: cs =>
    if isSeparator c then [] :: splitOn isSeparator cs
    else
      match splitOn isSeparator cs with
      | part :: parts => (c :: part) :: parts
      | [] => [[c]]

/-- The lines of a text. A line ends with a line feed, also behind a carriage return;
what stands behind the last line feed is a line if it is not empty. -/
def lines : List Char → List (List Char)
  | [] => []
  | '\r' :: '\n' :: cs => [] :: lines cs
  | c :: cs =>
    if c = '\n' then [] :: lines cs
    else
      match lines cs with
      | line :: more => (c :: line) :: more
      | [] => [[c]]

/-- Replace every occurrence of `old`, which is not empty, by `new`. The first `skip`
characters belong to an occurrence that has been replaced already. -/
def replaceFrom (old new : List Char) : Nat → List Char → List Char
  | _, [] => []
  | skip + 1, _ :: cs => replaceFrom old new skip cs
  | 0, c :: cs =>
    if old.isPrefixOf (c :: cs) then new ++ replaceFrom old new (old.length - 1) cs
    else c :: replaceFrom old new 0 cs

/-- Replace every occurrence of `old`, which is not empty, by `new`. -/
def replaceAll (old new : List Char) (text : List Char) : List Char := replaceFrom old new 0 text

@[simp] theorem replaceFrom_nil (old new : List Char) (skip : Nat) :
    replaceFrom old new skip [] = [] := by
  cases skip <;> rfl

theorem replaceFrom_eq_drop (old new : List Char) (skip : Nat) (text : List Char) :
    replaceFrom old new skip text = replaceAll old new (text.drop skip) := by
  induction text generalizing skip with
  | nil => simp [replaceAll]
  | cons c cs ih =>
    cases skip with
    | zero => rfl
    | succ skip => simpa [replaceFrom] using ih skip

theorem cutAt?_eq_some {part text before behind : List Char}
    (h : cutAt? part text = some (before, behind)) : before ++ part ++ behind = text := by
  induction text generalizing before with
  | nil =>
    unfold cutAt? at h
    split at h <;> simp_all
  | cons c cs ih =>
    unfold cutAt? at h
    split at h
    · rename_i occurs
      obtain ⟨rest, hrest⟩ := List.isPrefixOf_iff_prefix.mp occurs
      simp only [Option.some.injEq, Prod.mk.injEq] at h
      obtain ⟨rfl, rfl⟩ := h
      simp [← hrest]
    · obtain ⟨halves, hcut, hhalves⟩ := Option.map_eq_some_iff.mp h
      simp only [Prod.mk.injEq] at hhalves
      obtain ⟨rfl, rfl⟩ := hhalves
      have := ih hcut
      simp [← this]

end PageLayout.Text
