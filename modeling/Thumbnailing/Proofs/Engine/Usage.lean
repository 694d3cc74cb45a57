import Thumbnailing.Pipeline
import Thumbnailing.Proofs.Entries
import Thumbnailing.Proofs.World.Usage

set_option autoImplicit false

namespace Thumbnailing

def Primitive.selectsFrames : Primitive → Bool
  | .selectFrame _ | .selectAllFrames => true
  | _ => false

namespace Vips

/-- A job that reads its source as an opening does, with the picture it holds and what is known of
the world. -/
structure IsAt (opening : Opening) (held : Option Picture) (known : World → Prop)
    (state : World × VipsJob) : Prop where
  source : state.2.source = opening.source
  options : state.2.loaderOptions = opening.options
  picture : state.2.picture = held
  world : known state.1

def IsUnopened (opening : Opening) : World × VipsJob → Prop :=
  IsAt opening none opening.IsAwaited

def IsOpened (opening : Opening) (held : Picture) (live : List Nat) : World × VipsJob → Prop :=
  IsAt opening (some held) (opening.Yields live)

def IsReady (opening : Opening) (state : World × VipsJob) : Prop :=
  IsUnopened opening state ∨ ∃ held, IsOpened opening held [held.number] state

namespace IsReady

variable {opening : Opening} {held made : Picture} {live : List Nat} {Result : Type}
  {state : World × VipsJob}

theorem of_opened (opened : IsOpened opening held [held.number] state) : IsReady opening state :=
  .inr ⟨held, opened⟩

theorem onWorld {known : World → Prop} {after : Result → World → Prop} {kept : Option Picture}
    {task : Task World Result} (ensured : Task.Ensures known task after) :
    Task.Ensures (IsAt opening kept known) (onWorld task)
      fun result => IsAt opening kept (after result) := by
  rintro ⟨world, job⟩ result final ⟨source, options, picture, given⟩ ran
  obtain ⟨task⟩ := task
  simp only [Vips.onWorld, Task.run_onPart, Prod.mk.injEq] at ran
  obtain ⟨answer, rfl⟩ := ran
  exact ⟨source, options, picture, ensured world result _ given (Prod.ext answer rfl)⟩

theorem setPicture {kept : Option Picture} :
    Task.Ensures (IsAt opening kept (opening.Yields [made.number])) (setPicture made)
      fun _ => IsOpened opening made [made.number] :=
  .modify fun _ ⟨source, options, _, yields⟩ => ⟨source, options, rfl, yields⟩

theorem picture :
    Task.Ensures (IsReady opening) picture fun held => IsOpened opening held [held.number] := by
  rintro ⟨world, ⟨source, options, kept, saver, format⟩⟩ result final ready ran
  rcases ready with ⟨rfl, rfl, rfl, awaited⟩ | ⟨held, opened⟩
  next =>
    have opens : Task.Ensures (IsUnopened opening)
        (do
          let made ← Vips.onWorld do
            Library.load
            Library.openPicture (pathText opening.source) opening.options
          Vips.setPicture made
          return made)
        fun held => IsOpened opening held [held.number] :=
      .bind (onWorld (.bind Opening.load fun _ => Opening.openPicture)) fun made =>
        .bind setPicture fun _ => .pure fun _ opened => opened
    exact opens _ result final ⟨rfl, rfl, rfl, awaited⟩ ran
  next =>
    obtain ⟨rfl, rfl, rfl, yields⟩ := opened
    cases ran
    exact ⟨rfl, rfl, rfl, yields⟩

theorem transform (transformation : Transformation) (none : transformation.operands = []) :
    Task.Ensures (IsReady opening) (transform transformation) fun _ => IsReady opening := by
  refine .bind picture fun held => .bind (onWorld (Opening.transformOnly ?_)) fun made => ?_
  · simp [none]
  · exact setPicture.imp fun _ _ => of_opened

theorem withPageHeight (height : Int) :
    Task.Ensures (opening.Yields [made.number]) (withPageHeight made height)
      fun marked => opening.Yields [marked.number] :=
  .bind (Opening.transformOnly (by simp)) fun _ => Opening.setMetadata

theorem keep : Task.Ensures (IsOpened opening held [held.number]) (pure ())
    fun _ => IsReady opening := .pure fun _ => of_opened

theorem measuredPage {made : Picture} :
    Task.Ensures (IsOpened opening held live) (measuredPage made)
      fun _ => IsOpened opening held live :=
  .bind (onWorld (Opening.metadata _)) fun _ => .ofOutcome _

theorem hasAlpha {made : Picture} :
    Task.Ensures (IsOpened opening held live) (Vips.onWorld (Library.hasAlpha made))
      fun _ => IsOpened opening held live := onWorld Opening.hasAlpha

theorem changeJob {change : VipsJob → VipsJob}
    (source : ∀ job, (change job).source = job.source)
    (options : ∀ job, (change job).loaderOptions = job.loaderOptions)
    (picture : ∀ job, (change job).picture = job.picture) :
    Task.Ensures (IsReady opening) (changeJob change) fun _ => IsReady opening := by
  refine .modify fun (world, job) ready => ?_
  rcases ready with unopened | ⟨held, opened⟩
  · exact .inl ⟨(source job).trans unopened.source, (options job).trans unopened.options,
      (picture job).trans unopened.picture, unopened.world⟩
  · exact .inr ⟨held, (source job).trans opened.source, (options job).trans opened.options,
      (picture job).trans opened.picture, opened.world⟩

theorem putSaverOption (name : String) (value : Value) :
    Task.Ensures (IsReady opening) (putSaverOption name value) fun _ => IsReady opening :=
  changeJob (fun _ => rfl) (fun _ => rfl) fun _ => rfl

theorem nameFormat (format : Option String) :
    Task.Ensures (IsReady opening) (Vips.changeJob fun job => { job with format })
      fun _ => IsReady opening :=
  changeJob (fun _ => rfl) (fun _ => rfl) fun _ => rfl

theorem scale (xScale yScale : Amount) :
    Task.Ensures (IsReady opening) (scale xScale yScale) fun _ => IsReady opening := by
  refine .bind picture fun source => .bind measuredPage fun height => ?_
  refine .bind (onWorld (Opening.transformOnly (by simp))) fun resized => ?_
  split
  · exact setPicture.imp fun _ _ => of_opened
  · refine .bind (.ofOutcome _) fun scaled => .bind (onWorld (withPageHeight _)) fun marked => ?_
    exact setPicture.imp fun _ _ => of_opened

theorem fitBox (width height : Option Int) (rule : SizeRule) :
    Task.Ensures (IsReady opening) (fitBox width height rule) fun _ => IsReady opening := by
  refine .bind picture fun source => .bind measuredPage fun page => ?_
  split
  · exact (transform _ rfl).of_imp fun _ => of_opened
  · refine .bind (.ofOutcome _) fun factor => ?_
    split
    · exact (scale _ _).of_imp fun _ => of_opened
    · exact keep

theorem cutPages (width height : Int) :
    Task.Ensures (IsReady opening) (cutPages width height) fun _ => IsReady opening := by
  refine .bind picture fun source => .bind measuredPage fun page => ?_
  refine .bind (onWorld (Opening.transformAll _)) fun frames => ?_
  cases frames with
  | nil => exact keep
  | cons first rest =>
    refine .bind (onWorld (Opening.transformOnly ?_)) fun stacked => ?_
    · exact List.subset_cons_self _ _
    · refine .bind (onWorld (withPageHeight _)) fun marked => ?_
      exact setPicture.imp fun _ _ => of_opened

theorem fillBox (width height : Option Int) (crop : String) :
    Task.Ensures (IsReady opening) (fillBox width height crop) fun _ => IsReady opening := by
  refine .bind picture fun source => .bind measuredPage fun page => ?_
  split
  · refine .bind (.ofOutcome _) fun _ => .bind (.ofOutcome _) fun _ => ?_
    exact (transform _ rfl).of_imp fun _ => of_opened
  · refine .bind (.ofOutcome _) fun _ => .bind (.ofOutcome _) fun _ => ?_
    exact .bind ((scale _ _).of_imp fun _ => of_opened) fun _ => cutPages _ _

theorem resizeExact (width height : Option Int) :
    Task.Ensures (IsReady opening) (resizeExact width height) fun _ => IsReady opening := by
  refine .bind picture fun source => .bind (.ofOutcome _) fun xScale => ?_
  refine .bind measuredPage fun page => .bind (.ofOutcome _) fun yScale => ?_
  exact (scale _ _).of_imp fun _ => of_opened

theorem rotate (degrees : Amount) :
    Task.Ensures (IsReady opening) (rotate degrees) fun _ => IsReady opening := by
  refine .bind picture fun source => ?_
  split
  · refine .bind (.ofOutcome _) fun angle => ?_
    split
    · exact (transform _ rfl).of_imp fun _ => of_opened
    · exact keep
  · exact (transform _ rfl).of_imp fun _ => of_opened

theorem flatten (background : String) :
    Task.Ensures (IsReady opening) (flatten background) fun _ => IsReady opening := by
  refine .bind picture fun source => .bind hasAlpha fun transparent => ?_
  split
  · exact (transform _ rfl).of_imp fun _ => of_opened
  · exact keep

theorem negate : Task.Ensures (IsReady opening) negate fun _ => IsReady opening := by
  refine .bind picture fun source => .bind hasAlpha fun transparent => ?_
  split
  · have parts : Task.Ensures (opening.Yields [source.number])
        (do
          let colours ← Library.transform (.extractBands 0 (source.raster.bands - 1)) source
          let inverted ← Library.transform .invert colours
          let transparency ←
            Library.transform (.extractBands (source.raster.bands - 1) 1) source
          Library.transform (.joinBands transparency) inverted)
        fun made => opening.Yields [made.number] := by
      refine .bind (Opening.transform [source.number] (by simp)) fun colours => ?_
      refine .bind (Opening.transform [source.number] (by simp)) fun inverted => ?_
      refine .bind (Opening.transform [inverted.number] (by simp)) fun transparency => ?_
      exact Opening.transformOnly (by simp [Transformation.operands])
    exact .bind (onWorld parts) fun made => setPicture.imp fun _ _ => of_opened
  · exact (transform _ rfl).of_imp fun _ => of_opened

theorem apply {primitive : Primitive} (other : primitive.selectsFrames = false) :
    Task.Ensures (IsReady opening) (apply primitive) fun _ => IsReady opening := by
  have unscaled : Task.Ensures (IsReady opening)
      (do
        let _ ← Vips.picture
        .fail .absentValue : JobTask Unit) fun _ => IsReady opening :=
    .bind picture fun _ => .fail _
  cases primitive with
  | selectFrame | selectAllFrames => cases other
  | resizeToFit => exact fitBox _ _ _
  | resizeToFill => exact fillBox _ _ _
  | resizeToLimit => exact fitBox _ _ _
  | resizeExact => exact resizeExact _ _
  | scale xScale yScale =>
    cases xScale with
    | none => exact unscaled
    | some xScale =>
      cases yScale with
      | none => exact unscaled
      | some yScale => exact scale _ _
  | optimizeFrames => exact .pure fun _ ready => ready
  | rotate => exact rotate _
  | flatten => exact flatten _
  | negate => exact negate
  | passThrough => exact .fail _
  | autoOrient | flip | flop | gaussianBlur | sharpen | setColourSpace => exact transform _ rfl
  | strip | setQuality | interlace => exact putSaverOption _ _
  | convertFormat extension => exact nameFormat _

theorem save (destination : Path) :
    Task.Ensures (IsReady opening) (save destination) fun _ state => opening.IsSaved state.1 := by
  refine .bind picture fun held => ?_
  have saves (job : VipsJob) : Task.Ensures (opening.Yields [held.number])
      (do
        let extension := saveExtension job destination
        let dropped := droppedOptions job extension
        if !dropped.isEmpty then
          log (.debug .vips ("Saver options " ++ (Value.texts dropped).quoted ++
            " not supported for ." ++ extension))
        let options := job.saverOptions.filter fun entry => isAccepted extension entry.1
        Files.write destination (← Library.encode ("." ++ extension) options held))
      fun _ => opening.IsSaved := by
    have encodes : Task.Ensures (opening.Yields [held.number]) _ fun _ => opening.IsSaved :=
      .bind (Opening.encode ("." ++ saveExtension job destination)
        (job.saverOptions.filter fun entry => isAccepted (saveExtension job destination) entry.1))
        fun content => Opening.write destination content
    dsimp only
    split
    · exact .bind (Opening.logAll _) fun _ => encodes
    · exact encodes
  rintro ⟨world, job⟩ result final opened ran
  exact (onWorld (saves job) _ result final opened ran).world

end IsReady

theorem IsUnopened.reopen {opening : Opening} (change : Entries → Entries) :
    Task.Ensures (IsUnopened opening) (reopen change)
      fun _ => IsUnopened { opening with options := change opening.options } :=
  .modify fun _ ⟨source, options, _, awaited⟩ =>
    ⟨source, congrArg change options, rfl, awaited⟩

end Vips

def openingNames : List String := ["dpi", "page", "n", "scale", "access"]

def HasOpeningNames (options : Entries) : Prop := ∀ entry ∈ options, entry.1 ∈ openingNames

namespace HasOpeningNames

variable {options : Entries}

theorem put (named : HasOpeningNames options) {name : String} (known : name ∈ openingNames)
    (value : Value) : HasOpeningNames (options.put name value) := by
  intro entry member
  rcases Entries.mem_put member with inside | rfl
  · exact named entry inside
  · exact known

theorem remove (named : HasOpeningNames options) (name : String) :
    HasOpeningNames (options.remove name) :=
  fun entry member => named entry (Entries.mem_remove member)

theorem of_loaderName {key name : String} (found : Vips.loaderNames.lookup key = some name) :
    name ∈ openingNames := by
  have all : ∀ entry ∈ Vips.loaderNames, entry.2 ∈ openingNames := by decide
  obtain ⟨_, _, whole, -⟩ := List.lookup_eq_some_iff.mp found
  exact all (key, name) (by simp [whole])

theorem loaderOptionsFrom {opening : Opening} (named : HasOpeningNames options)
    (entries : Entries) :
    Task.Ensures opening.IsAwaited (Vips.loaderOptionsFrom options entries)
      fun made world => HasOpeningNames made ∧ opening.IsAwaited world := by
  induction entries generalizing options with
  | nil => exact .pure fun _ awaited => ⟨named, awaited⟩
  | cons entry rest ih =>
    have adds : Task.Ensures opening.IsAwaited (Vips.addLoaderOption options entry)
        fun made world => HasOpeningNames made ∧ opening.IsAwaited world := by
      unfold Vips.addLoaderOption
      split
      · exact .bind (.modify fun _ awaited => awaited) fun _ =>
          .pure fun _ awaited => ⟨named, awaited⟩
      · rename_i found
        split
        · exact .pure fun _ awaited => ⟨named.put (of_loaderName found) _, awaited⟩
        · exact .fail _
    exact .bind adds fun made => .assuming fun namedToo => ih namedToo

end HasOpeningNames

end Thumbnailing
