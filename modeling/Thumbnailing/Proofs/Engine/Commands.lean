import Thumbnailing.Engine.Basic
import Thumbnailing.Proofs.Task

set_option autoImplicit false

namespace Thumbnailing

@[simp] theorem run_logAll (records : List LogRecord) (world : World) :
    (logAll records).run world = (.ok (), world.append records) := rfl

@[simp] theorem run_log (record : LogRecord) (world : World) :
    (log record).run world = (.ok (), world.append [record]) := rfl

theorem World.append_append (world : World) (first rest : List LogRecord) :
    (world.append first).append rest = world.append (first ++ rest) := by
  simp [World.append]

theorem World.append_nil (world : World) : world.append [] = world := by
  simp [World.append]

namespace MagickCommand

theorem addWords_addWords (command : MagickCommand) (first rest : List String) :
    (command.addWords first).addWords rest = command.addWords (first ++ rest) := by
  simp [addWords]

theorem addWords_nil (command : MagickCommand) : command.addWords [] = command := by
  simp [addWords]

end MagickCommand

namespace Engine

variable {Result : Type}

@[simp] theorem run_onWorld (task : Task World Result) (world : World) (job : Option Job) :
    (onWorld task).run ⟨world, job⟩ = ((task.run world).1, ⟨(task.run world).2, job⟩) := rfl

@[simp] theorem run_onJob_magick (magick : MagickCommand → Task Session Result)
    (vips : Vips.JobTask Result) (world : World) (command : MagickCommand) :
    (onJob magick vips).run ⟨world, some (.magick command)⟩ =
      (magick command).run ⟨world, some (.magick command)⟩ := rfl

@[simp] theorem run_onJob_vips (magick : MagickCommand → Task Session Result)
    (vips : Vips.JobTask Result) (world : World) (job : VipsJob) :
    (onJob magick vips).run ⟨world, some (.vips job)⟩ =
      ((vips.run (world, job)).1,
        ⟨(vips.run (world, job)).2.1, some (.vips (vips.run (world, job)).2.2)⟩) := rfl

theorem apply_onJob {engine : Engine} {primitive : Primitive} (other : primitive ≠ .optimizeFrames) :
    engine.apply primitive = onJob (applyToCommand primitive) (Vips.apply primitive) := by
  unfold apply
  split
  · exact absurd rfl other
  · rfl

theorem run_apply_magick {settings : Settings} {primitive : Primitive} {words : List String}
    (added : Magick.primitiveWords primitive = .ok words) (world : World)
    (command : MagickCommand) :
    (apply ⟨.imageMagick, settings⟩ primitive).run ⟨world, some (.magick command)⟩ =
      (.ok (), ⟨world, some (.magick ((Magick.prepare command primitive).addWords words))⟩) := by
  have applied : Magick.apply command primitive =
      .ok ((Magick.prepare command primitive).addWords words) := by
    simp only [Magick.apply, added]
    rfl
  simp only [apply, run_onJob_magick, applyToCommand, applied]
  rfl

end Engine

end Thumbnailing
