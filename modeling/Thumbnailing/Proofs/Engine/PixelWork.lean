import Thumbnailing.Proofs.Engine.DirectiveNames
import Thumbnailing.Proofs.Task

set_option autoImplicit false

namespace Thumbnailing

def Transformation.IsCertain (transformation : Transformation) : Prop :=
  ∀ raster, ∃ drawn, transformation.result raster = .ok drawn

namespace Vips

theorem quarters_eq_ok {degrees : Amount} (whole : degrees.isMultipleOf 90 = true) :
    ∃ angle, quarters degrees = .ok angle := by
  cases degrees with
  | whole n => exact ⟨_, rfl⟩
  | real x =>
    cases x with
    | finite => exact ⟨_, rfl⟩
    | _ => cases whole

structure IsPixelClass (onWorlds : Task World Picture → Prop)
    (onJobs : ∀ {Result : Type}, JobTask Result → Prop) : Prop where
  draws : ∀ {transformation : Transformation} (picture : Picture), transformation.IsCertain →
    onWorlds (Library.transform transformation picture)
  drawsOn : ∀ {task : Task World Picture} {next : Picture → Task World Picture},
    onWorlds task → (∀ picture, onWorlds (next picture)) → onWorlds (task >>= next)
  asks : ∀ picture, onJobs (onWorld (Library.hasAlpha picture))
  succeed : ∀ {Result : Type} (result : Result), onJobs (pure result)
  bind : ∀ {First Result : Type} {task : JobTask First} {next : First → JobTask Result},
    onJobs task → (∀ result, onJobs (next result)) → onJobs (task >>= next)
  picture : onJobs picture
  replacePicture : ∀ {task : Task World Picture}, onWorlds task →
    onJobs (do setPicture (← onWorld task))

namespace IsPixelClass

variable {onWorlds : Task World Picture → Prop}
  {onJobs : ∀ {Result : Type}, JobTask Result → Prop} (pixels : IsPixelClass onWorlds @onJobs)

include pixels

theorem ofOutcome {Result : Type} {outcome : Outcome Result}
    (good : ∃ result, outcome = .ok result) : onJobs (.ofOutcome outcome) := by
  obtain ⟨result, rfl⟩ := good
  exact pixels.succeed result

theorem transform {transformation : Transformation} (certain : transformation.IsCertain) :
    onJobs (transform transformation) :=
  pixels.bind pixels.picture fun picture => pixels.replacePicture (pixels.draws picture certain)

theorem rotate (degrees : Amount) : onJobs (rotate degrees) := by
  refine pixels.bind pixels.picture fun _ => ?_
  split
  · rename_i whole
    refine pixels.bind (pixels.ofOutcome (quarters_eq_ok whole)) fun angle => ?_
    split
    · exact pixels.transform fun _ => ⟨_, rfl⟩
    · exact pixels.succeed ()
  · exact pixels.transform fun _ => ⟨_, rfl⟩

theorem flatten (background : String) : onJobs (flatten background) := by
  refine pixels.bind pixels.picture fun source => ?_
  refine pixels.bind (pixels.asks source) fun transparent => ?_
  split
  · exact pixels.transform fun _ => ⟨_, rfl⟩
  · exact pixels.succeed ()

theorem negate : onJobs negate := by
  refine pixels.bind pixels.picture fun source => ?_
  refine pixels.bind (pixels.asks source) fun transparent => ?_
  split
  · refine pixels.replacePicture ?_
    refine pixels.drawsOn (pixels.draws source fun _ => ⟨_, rfl⟩) fun colours => ?_
    refine pixels.drawsOn (pixels.draws colours fun _ => ⟨_, rfl⟩) fun inverted => ?_
    refine pixels.drawsOn (pixels.draws source fun _ => ⟨_, rfl⟩) fun transparency => ?_
    exact pixels.draws inverted fun _ => ⟨_, rfl⟩
  · exact pixels.transform fun _ => ⟨_, rfl⟩

theorem apply {name : String} {primitive : Primitive} (named : name ∈ primitive.directiveNames)
    (onPixels : primitive.isForSaving = false) : onJobs (apply primitive) := by
  cases primitive with
  | strip | setQuality | interlace => cases onPixels
  | rotate => exact pixels.rotate _
  | flatten => exact pixels.flatten _
  | negate => exact pixels.negate
  | autoOrient | flip | flop | gaussianBlur | sharpen | setColourSpace =>
    exact pixels.transform fun _ => ⟨_, rfl⟩
  | _ => cases named

end IsPixelClass

end Vips

end Thumbnailing
