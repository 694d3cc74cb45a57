import Thumbnailing.Engine.Primitive
import Thumbnailing.Proofs.Task
import Thumbnailing.Proofs.Text.LetterCase
import Thumbnailing.Request.Options

set_option autoImplicit false

namespace Thumbnailing.ThumbnailOptions

theorem ofEntries_parts {entries : Entries} {options : ThumbnailOptions}
    (read : ofEntries entries = .ok options) :
    (options.geometryParser = none ∧ options.sourceParser = none) ∧
      ∃ given, options.format = Option.bind given extensionOf := by
  unfold ofEntries at read
  simp only at read
  split at read
  · rename_i recorded
    cases read
    obtain ⟨geometry, -, recorded⟩ := Task.ok_of_bind recorded
    obtain ⟨format, -, recorded⟩ := Task.ok_of_bind recorded
    iterate 7 obtain ⟨_, -, recorded⟩ := Task.ok_of_bind recorded
    cases recorded
    exact ⟨⟨rfl, rfl⟩, format, rfl⟩
  · cases read

def IsAnswer (outcome : Outcome ThumbnailOptions) : Prop :=
  (∃ options : ThumbnailOptions, outcome = .ok options ∧ options.geometryParser = none ∧
    options.sourceParser = none) ∨
  ∃ message, outcome = .error (badRequest message)

theorem ofEntries_fails {entries : Entries} {failure : Failure}
    (refused : ofEntries entries = .error failure) :
    ∃ faults, failure = .invalidFields faults := by
  unfold ofEntries at refused
  simp only at refused
  split at refused
  · cases refused
  · cases refused
    exact ⟨_, rfl⟩

theorem ofFormEntries_answers (entries : Entries) : IsAnswer (ofFormEntries entries) := by
  unfold ofFormEntries
  cases read : ofEntries ((entries.remove "string_geometry_parser").remove
      "file_geometry_parser") with
  | ok options => exact .inl ⟨options, rfl, (ofEntries_parts read).1⟩
  | error failure =>
    obtain ⟨faults, rfl⟩ := ofEntries_fails read
    exact .inr ⟨_, rfl⟩

theorem not_isAnswer {failure : Failure} (other : failure.kind? = none) :
    ¬ IsAnswer (.error failure) := by
  rintro (⟨options, read, -⟩ | ⟨message, refused⟩)
  · cases read
  · cases refused
    cases other

end Thumbnailing.ThumbnailOptions
