import Thumbnailing.Engine.Magick
import Thumbnailing.Proofs.Task

set_option autoImplicit false

namespace Thumbnailing.Resize

def words : Resize → List String
  -- The words of a resize for the convert command. Scaling by factors is left to the library.
  | .fit width height => ["-resize", Magick.fitText width height]
  | .fill width height crop =>
    ["-resize", Magick.boxText width height ++ "^",
      "-gravity", Magick.gravityOf (Primitive.cropOf crop),
      "-extent", Magick.boxText width height, "+gravity"]
  | .limit width height => ["-resize", Magick.fitText width height ++ ">"]
  | .exact width height => ["-resize", Magick.boxText width height ++ "!"]
  | .identity | .scale .. | .unrecognised _ => []

def isForCommand : Resize → Bool
  | .scale .. | .unrecognised _ => false
  | _ => true

theorem fitScaled_isForCommand {current : CurrentGeometry} {scale : Binary64} {resize : Resize}
    (scaled : fitScaled current scale = .ok resize) : resize.isForCommand = true := by
  obtain ⟨width, _, rest⟩ := Task.ok_of_bind scaled
  obtain ⟨height, _, last⟩ := Task.ok_of_bind rest
  simp only at last
  split at last
  · cases last
    rfl
  · cases last
    rfl

theorem covering_isForCommand {current : CurrentGeometry} {width height : Option Int}
    {resize : Resize} (covered : covering current width height = .ok resize) :
    resize.isForCommand = true := by
  unfold covering at covered
  split at covered
  · obtain ⟨_, _, rest⟩ := Task.ok_of_bind covered
    obtain ⟨_, _, rest⟩ := Task.ok_of_bind rest
    obtain ⟨_, _, rest⟩ := Task.ok_of_bind rest
    obtain ⟨_, _, last⟩ := Task.ok_of_bind rest
    cases last
    rfl
  · cases covered
    rfl

theorem forced_isForCommand {current : CurrentGeometry} {width height : Option Int}
    {resize : Resize} (stretched : forced current .imageMagick width height = .ok resize) :
    resize.isForCommand = true := by
  unfold forced at stretched
  split at stretched <;> cases stretched <;> rfl

theorem toArea_isForCommand {current : CurrentGeometry} {area : Int} {shrinkOnly : Bool}
    {resize : Resize} (scaled : toArea current area shrinkOnly = .ok resize) :
    resize.isForCommand = true := by
  unfold toArea at scaled
  split at scaled
  · cases scaled
    rfl
  · obtain ⟨_, _, rest⟩ := Task.ok_of_bind scaled
    obtain ⟨_, _, last⟩ := Task.ok_of_bind rest
    exact fitScaled_isForCommand last

theorem resolve_isForCommand {current : CurrentGeometry} {target : TargetGeometry}
    {resize : Resize} (resolved : resolve current target .imageMagick = .ok resize) :
    resize.isForCommand = true := by
  unfold resolve at resolved
  simp only at resolved
  split at resolved
  · cases resolved
    rfl
  · split at resolved
    · cases resolved
      rfl
    · cases resolved
      rfl
    · cases resolved
      split <;> rfl
    · cases resolved
      split <;> rfl
    · exact forced_isForCommand resolved
    · exact covering_isForCommand resolved
    · obtain ⟨_, _, last⟩ := Task.ok_of_bind resolved
      exact fitScaled_isForCommand last
    · exact toArea_isForCommand resolved
    · exact toArea_isForCommand resolved

theorem resolve_identity {current : CurrentGeometry} {target : TargetGeometry}
    {engine : EngineKind} (nothing : target.isIdentity = true) :
    resolve current target engine = .ok .identity := by
  simp only [TargetGeometry.isIdentity, Bool.and_eq_true, Option.isNone_iff_eq_none] at nothing
  simp [resolve, TargetGeometry.scalar, nothing]

end Thumbnailing.Resize
