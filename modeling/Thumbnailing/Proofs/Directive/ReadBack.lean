import Thumbnailing.Directive.Vocabulary

set_option autoImplicit false

namespace Thumbnailing.Vocabulary

/-- Words as options with their arguments; none if they end before the last option has its own. -/
def readBack : List String → Option (List (String × List String))
  | [] => some []
  | flag :: rest =>
    if rest.length < argumentCount flag then none
    else
      (readBack (rest.drop (argumentCount flag))).map
        ((flag, rest.take (argumentCount flag)) :: ·)
termination_by words => words.length
decreasing_by
  simp only [List.length_cons, List.length_drop]
  omega

/-- The first word that neither is an option nor belongs to one. -/
def firstFile : List String → Option String
  | [] => none
  | word :: rest =>
    if Directive.isFlag word then firstFile (rest.drop (argumentCount word)) else some word
termination_by words => words.length
decreasing_by
  simp only [List.length_cons, List.length_drop]
  omega

def written (readings : List (String × List String)) : List String :=
  readings.flatMap fun reading => reading.1 :: reading.2

theorem readBack_cons (flag : String) (arguments rest : List String)
    (full : arguments.length = argumentCount flag) :
    readBack (flag :: (arguments ++ rest)) = (readBack rest).map ((flag, arguments) :: ·) := by
  have enough : ¬ (arguments ++ rest).length < argumentCount flag := by
    rw [List.length_append]
    omega
  rw [readBack, if_neg enough, ← full, List.drop_left, List.take_left]

theorem readBack_full {words : List String} {readings : List (String × List String)}
    (read : readBack words = some readings) :
    ∀ reading ∈ readings, reading.2.length = argumentCount reading.1 := by
  fun_induction readBack words generalizing readings with
  | case1 =>
    cases read
    simp
  | case2 => cases read
  | case3 flag rest enough ih =>
    obtain ⟨others, readRest, rfl⟩ := Option.map_eq_some_iff.mp read
    intro reading member
    rcases List.mem_cons.mp member with rfl | later
    · exact List.length_take_of_le (Nat.le_of_not_lt enough)
    · exact ih readRest reading later

theorem readBack_written (readings : List (String × List String)) :
    readBack (written readings) = some readings ↔
      ∀ reading ∈ readings, reading.2.length = argumentCount reading.1 := by
  -- A reader hands out full options only, so what it gives back was full before.
  refine ⟨readBack_full, fun full => ?_⟩
  induction readings with
  | nil => simp [written, readBack]
  | cons reading rest ih =>
    have first := full reading List.mem_cons_self
    have later := ih fun other member => full other (List.mem_cons_of_mem reading member)
    have split : written (reading :: rest) = reading.1 :: (reading.2 ++ written rest) := rfl
    rw [split, readBack_cons _ _ _ first, later]
    rfl

theorem firstFile_written {readings : List (String × List String)} (rest : List String)
    (flags : ∀ reading ∈ readings, Directive.isFlag reading.1 = true)
    (full : ∀ reading ∈ readings, reading.2.length = argumentCount reading.1) :
    firstFile (written readings ++ rest) = firstFile rest := by
  induction readings with
  | nil => rfl
  | cons reading others ih =>
    have split : written (reading :: others) ++ rest =
        reading.1 :: (reading.2 ++ (written others ++ rest)) := by simp [written]
    rw [split, firstFile, if_pos (flags reading List.mem_cons_self),
      ← full reading List.mem_cons_self, List.drop_left]
    exact ih (fun other member => flags other (List.mem_cons_of_mem reading member))
      fun other member => full other (List.mem_cons_of_mem reading member)

end Thumbnailing.Vocabulary
