import Thumbnailing.Storage.Path

set_option autoImplicit false

namespace Thumbnailing.Path

def IsName (name : String) : Prop := isStep name.toList = true ∧ '/' ∉ name.toList

theorem piecesOf_splitOn (text : List Char) : piecesOf text = text.splitOn '/' := by
  induction text with
  | nil => rfl
  | cons c rest ih =>
    rw [List.splitOn_cons_eq_if_modifyHead, ← ih]
    by_cases slash : c = '/'
    · subst slash
      rfl
    · have filled : piecesOf rest ≠ [] := by
        rw [ih]
        exact List.splitOn_ne_nil '/' rest
      rw [piecesOf, if_neg (by simpa using slash)]
      · cases h : piecesOf rest with
        | nil => exact absurd h filled
        | cons first others => rfl
      · exact slash

theorem piecesOf_intercalate {pieces : List (List Char)} (filled : pieces ≠ [])
    (plain : ∀ piece ∈ pieces, '/' ∉ piece) : piecesOf (['/'].intercalate pieces) = pieces := by
  rw [piecesOf_splitOn, List.splitOn_intercalate '/' plain filled]

theorem slash_of_piecesOf {text piece : List Char} (member : piece ∈ piecesOf text) :
    '/' ∉ piece := by
  fun_induction piecesOf text generalizing piece with
  | case1 =>
    rw [List.mem_singleton.mp member]
    exact List.not_mem_nil
  | case2 rest ih =>
    rcases List.mem_cons.mp member with rfl | later
    · exact List.not_mem_nil
    · exact ih later
  | case3 c rest slash none ih =>
    rw [List.mem_singleton.mp member]
    simpa using Ne.symm slash
  | case4 c rest slash first others split ih =>
    rcases List.mem_cons.mp member with rfl | later
    · have plain := ih (by rw [split]; exact List.mem_cons_self)
      simp [plain, Ne.symm slash]
    · exact ih (by rw [split]; exact List.mem_cons_of_mem _ later)

theorem slash_of_single {text piece : List Char} (single : piecesOf text = [piece]) :
    '/' ∉ text := by
  -- Splitting loses nothing, so a text of one piece is that piece.
  have joined : ['/'].intercalate (text.splitOn '/') = text := List.intercalate_splitOn '/'
  rw [← piecesOf_splitOn, single, List.intercalate_singleton] at joined
  rw [← joined]
  exact slash_of_piecesOf (by rw [single]; exact List.mem_cons_self)

theorem isName_of_ofText {text step : String} (member : step ∈ (ofText text).steps) :
    IsName step := by
  obtain ⟨piece, inside, rfl⟩ := List.mem_map.mp member
  obtain ⟨split, isStep⟩ := List.mem_filter.mp inside
  exact ⟨by simpa using isStep, by simpa using slash_of_piecesOf split⟩

theorem mem_collapse {taken steps : List String} {step : String}
    (member : step ∈ collapse taken steps) : step ∈ taken ∨ step ∈ steps := by
  fun_induction collapse taken steps with
  | case1 taken => exact .inl member
  | case2 taken first rest ih =>
    rcases ih member with earlier | later
    · split at earlier
      · exact .inl (List.dropLast_subset _ earlier)
      · rcases List.mem_append.mp earlier with old | new
        · exact .inl old
        · exact .inr (by simp_all)
    · exact .inr (List.mem_cons_of_mem _ later)

theorem isName_of_absolute {folder path : Path} {step : String}
    (inFolder : ∀ name ∈ folder.steps, IsName name) (inPath : ∀ name ∈ path.steps, IsName name)
    (member : step ∈ (absolute folder path).steps) : IsName step := by
  unfold absolute at member
  split at member
  · rcases mem_collapse member with nothing | inside
    · cases nothing
    · exact (List.mem_append.mp inside).elim (inFolder step) (inPath step)
  · rcases mem_collapse member with nothing | inside
    · cases nothing
    · exact inPath step inside

theorem absolute_root {folder path : Path} (rooted : folder.root ≠ .relative) :
    (absolute folder path).root ≠ .relative := by
  unfold absolute
  split
  · exact rooted
  · rename_i relative
    exact relative

theorem intercalate_head {first : List Char} {others : List (List Char)} (filled : first ≠ [])
    (plain : '/' ∉ first) : (['/'].intercalate (first :: others)).takeWhile (· == '/') = [] := by
  cases first with
  | nil => exact absurd rfl filled
  | cons c rest =>
    have apart : (c == '/') = false := by
      simp only [List.mem_cons, not_or] at plain
      simpa using Ne.symm plain.1
    cases others <;> simp [List.intercalate_cons_cons, apart]

theorem ofText_text {path : Path} (rooted : path.root ≠ .relative) (filled : path.steps ≠ [])
    (names : ∀ step ∈ path.steps, IsName step) : ofText path.text = path := by
  have plain : ∀ piece ∈ path.steps.map String.toList, '/' ∉ piece := by
    intro piece member
    obtain ⟨step, inside, rfl⟩ := List.mem_map.mp member
    exact (names step inside).2
  have pieces := piecesOf_intercalate (by simpa using filled) plain
  have steps : ((path.steps.map String.toList).filter isStep).map String.ofList = path.steps := by
    rw [List.filter_eq_self.mpr]
    · simp [Function.comp_def]
    · intro piece member
      obtain ⟨step, inside, rfl⟩ := List.mem_map.mp member
      exact (names step inside).1
  have head : (['/'].intercalate (path.steps.map String.toList)).takeWhile (· == '/') = [] := by
    cases h : path.steps with
    | nil => exact absurd h filled
    | cons first others =>
      have name := names first (by rw [h]; exact List.mem_cons_self)
      refine intercalate_head ?_ name.2
      intro empty
      simp [IsName, isStep, empty] at name
  -- The slashes in front tell the root, and leave as many empty pieces before the steps.
  obtain ⟨root, given⟩ := path
  simp only at pieces steps head
  cases root with
  | relative => exact absurd rfl rooted
  | absolute =>
    have chars : (Path.mk .absolute given).text.toList =
        '/' :: ['/'].intercalate (given.map String.toList) := by simp [text, PathRoot.text]
    have slashes : ('/' :: ['/'].intercalate (given.map String.toList)).takeWhile (· == '/') =
        ['/'] := by rw [List.takeWhile_cons_of_pos rfl, head]
    have read : piecesOf ('/' :: ['/'].intercalate (given.map String.toList)) =
        [] :: given.map String.toList := by rw [piecesOf, pieces]
    rw [ofText, chars, rootOf, slashes, read, List.filter_cons_of_neg (by decide), steps]
    rfl
  | doubled =>
    have chars : (Path.mk .doubled given).text.toList =
        '/' :: '/' :: ['/'].intercalate (given.map String.toList) := by simp [text, PathRoot.text]
    have slashes : ('/' :: '/' :: ['/'].intercalate (given.map String.toList)).takeWhile
        (· == '/') = ['/', '/'] := by
      rw [List.takeWhile_cons_of_pos rfl, List.takeWhile_cons_of_pos rfl, head]
    have read : piecesOf ('/' :: '/' :: ['/'].intercalate (given.map String.toList)) =
        [] :: [] :: given.map String.toList := by rw [piecesOf, piecesOf, pieces]
    rw [ofText, chars, rootOf, slashes, read, List.filter_cons_of_neg (by decide),
      List.filter_cons_of_neg (by decide), steps]
    rfl

theorem text_head {path : Path} (rooted : path.root ≠ .relative) :
    ∃ rest, path.text.toList = '/' :: rest := by
  obtain ⟨root, steps⟩ := path
  cases root with
  | relative => exact absurd rfl rooted
  | absolute => simp [text, PathRoot.text]
  | doubled => simp [text, PathRoot.text]

end Thumbnailing.Path
