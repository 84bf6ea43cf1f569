import DumpConvert.Command.Session

/-!
# What a run leaves behind

A run takes its steps in order, and the first one that fails ends it.  What it can leave is
therefore one of six things, which say what was read and what was written by then
(`Session.Ends`, `Session.afterRun_eq_iff`).

Each write leaves every other file alone (`Disk.ChangesOnly`), and no file is written in
parts.  So a file named as the output is untouched or whole, whether the run fails or not;
whole is the script, or the summary if that goes to the same file.  Only a stream that
breaks may have got a beginning of the script (`Session.afterRun_leaves_whole`).
-/

namespace DumpConvert.Command

def Disk.profileAt (disk : Disk) : Option Text → Except Failure Profile
  | none => .ok Profile.builtIn
  | some path =>
      match disk.read path with
      | .error fault => .error (.io path fault)
      | .ok file => (Profile.load file).mapError (.profile path)

namespace Session

/-! ## The steps of a run -/

/-- The profile and the dump can be read, and this is their conversion. -/
def Converts (session : Session) (arguments : Arguments) (conversion : Conversion) : Prop :=
  ∃ profile dump, session.disk.profileAt arguments.profile = .ok profile ∧
    session.disk.read arguments.input = .ok dump ∧
    conversion = convertDump profile arguments.mode session.clock dump

def failingAt (path : Text) (result : Except SystemFault Unit × Session) :
    Except Failure Unit × Session :=
  (result.1.mapError (.io path), result.2)

def putScript (output : Option Text) (script : Text) (session : Session) :
    Except Failure Unit × Session :=
  match output with
  | some path => failingAt path (session.writeFile path script)
  | none => failingAt "<stdout>".toList (session.writeOutput script)

def putSummary (arguments : Arguments) (summary : Summary) (session : Session) :
    Except Failure Unit × Session :=
  match arguments.summaryFile with
  | some path =>
      failingAt path (session.writeFile path (summaryText arguments.mode 0 summary))
  | none => (.ok (), session)

def putReport (summary : Summary) (session : Session) : Except Failure Unit × Session :=
  failingAt "<stderr>".toList (session.writeReport (reportText summary))

/--
How a run ends, and the session that it leaves.

The first step that fails decides; what the steps before it wrote stays.
-/
inductive Ends (before : Session) (arguments : Arguments) :
    Except Failure Unit → Session → Prop where
  | noProfile {failure : Failure}
      (h : before.disk.profileAt arguments.profile = .error failure) :
      Ends before arguments (.error failure) before
  | noInput {profile : Profile} {fault : SystemFault}
      (hprofile : before.disk.profileAt arguments.profile = .ok profile)
      (h : before.disk.read arguments.input = .error fault) :
      Ends before arguments (.error (.io arguments.input fault)) before
  | noScript {conversion : Conversion} {failure : Failure} {left : Session}
      (hconverts : before.Converts arguments conversion)
      (h : before.putScript arguments.output conversion.script = (.error failure, left)) :
      Ends before arguments (.error failure) left
  | noSummary {conversion : Conversion} {written left : Session} {failure : Failure}
      (hconverts : before.Converts arguments conversion)
      (hscript : before.putScript arguments.output conversion.script = (.ok (), written))
      (h : written.putSummary arguments conversion.summary = (.error failure, left)) :
      Ends before arguments (.error failure) left
  | noReport {conversion : Conversion} {written summed left : Session} {failure : Failure}
      (hconverts : before.Converts arguments conversion)
      (hscript : before.putScript arguments.output conversion.script = (.ok (), written))
      (hsummary : written.putSummary arguments conversion.summary = (.ok (), summed))
      (h : summed.putReport conversion.summary = (.error failure, left)) :
      Ends before arguments (.error failure) left
  | done {conversion : Conversion} {written summed left : Session}
      (hconverts : before.Converts arguments conversion)
      (hscript : before.putScript arguments.output conversion.script = (.ok (), written))
      (hsummary : written.putSummary arguments conversion.summary = (.ok (), summed))
      (hreport : summed.putReport conversion.summary = (.ok (), left)) :
      Ends before arguments (.ok ()) left

/-! ## Actions in a session -/

section Actions

variable {α β : Type}

def after (session : Session) (action : ExceptT Failure (StateM Session) α) :
    Except Failure α × Session :=
  action.run.run session

/-- An action goes on with the value of the action before it, unless that failed. -/
theorem after_bind (session : Session) (action : ExceptT Failure (StateM Session) α)
    (next : α → ExceptT Failure (StateM Session) β) :
    session.after (action >>= next) =
      match session.after action with
      | (.ok value, changed) => changed.after (next value)
      | (.error failure, changed) => (.error failure, changed) := by
  unfold after
  cases h : action.run.run session with
  | mk result changed =>
      simp only [ExceptT.run_bind, StateT.run_bind, h]
      cases result <;> rfl

theorem after_read (session : Session) (path : Text) :
    session.after (onPath path (host.readFile path)) =
      match session.disk.read path with
      | .ok t => (.ok t, session)
      | .error fault => (.error (.io path fault), session) := by
  unfold after
  simp only [onPath, host]
  cases h : session.disk.read path <;> simp [h] <;> rfl

theorem after_modifyGet (session : Session) (path : Text)
    (step : Session → Except SystemFault Unit × Session) :
    session.after (onPath path (modifyGet step)) = failingAt path (step session) := by
  unfold after
  simp only [onPath]
  cases h : step session with
  | mk result left => cases result <;> simp [h, failingAt] <;> rfl

theorem after_writeFile (session : Session) (path t : Text) :
    session.after (onPath path (host.writeFile path t)) =
      failingAt path (session.writeFile path t) := by
  exact after_modifyGet session path (writeFile path t)

theorem after_log (session : Session) (level : Level) (message : Text) :
    session.after (liftM (host.log level message)) = (.ok (), session) := by
  rfl

theorem after_loadProfile (session : Session) (source : Option Text) :
    session.after (loadProfile host source) = (session.disk.profileAt source, session) := by
  cases source with
  | none => rfl
  | some path =>
      simp only [loadProfile, Disk.profileAt, after_bind, after_log, after_read]
      cases session.disk.read path with
      | error fault => rfl
      | ok file =>
          dsimp only
          cases Profile.load file <;> rfl

theorem after_writeScript (session : Session) (output : Option Text) (script : Text) :
    session.after (writeScript host output script) = session.putScript output script := by
  cases output with
  | none => exact after_modifyGet session _ _
  | some path =>
      simp only [writeScript, putScript, after_bind, after_writeFile]
      cases session.writeFile path script with
      | mk result left => cases result <;> rfl

theorem after_writeSummary (session : Session) (arguments : Arguments) (summary : Summary) :
    session.after (writeSummary host arguments summary) =
      session.putSummary arguments summary := by
  unfold writeSummary putSummary
  cases arguments.summaryFile with
  | none => rfl
  | some path => exact after_writeFile session path _

theorem after_writeReport (session : Session) (summary : Summary) :
    session.after (onPath "<stderr>".toList (host.writeReport (reportText summary))) =
      session.putReport summary := by
  exact after_modifyGet session _ _

theorem after_logEvents (session : Session) (events : List Event) :
    session.after (ExceptT.lift (logEvents host events)) = (.ok (), session) := by
  induction events with
  | nil => rfl
  | cons event rest ih => exact ih

end Actions

/-! ## The end of a run -/

/-- A run read, converted and written step by step. -/
theorem afterRun_eq (before : Session) (arguments : Arguments) :
    before.afterRun arguments = match before.disk.profileAt arguments.profile with
      | .error failure => (.error failure, before)
      | .ok profile => match before.disk.read arguments.input with
        | .error fault => (.error (.io arguments.input fault), before)
        | .ok dump =>
            let conversion := convertDump profile arguments.mode before.clock dump
            match before.putScript arguments.output conversion.script with
            | (.error failure, left) => (.error failure, left)
            | (.ok (), written) => match written.putSummary arguments conversion.summary with
              | (.error failure, left) => (.error failure, left)
              | (.ok (), summed) => summed.putReport conversion.summary := by
  -- Messages and the clock change nothing, so their steps drop out of the run.
  show before.after (run host arguments) = _
  simp only [run, after_bind, after_log, after_loadProfile, after_read]
  cases before.disk.profileAt arguments.profile with
  | error failure => rfl
  | ok profile =>
      dsimp only
      cases before.disk.read arguments.input with
      | error fault => rfl
      | ok dump =>
          have hnow : before.after (liftM host.now) = (.ok before.clock, before) := rfl
          simp only [hnow, after_logEvents, after_writeScript, after_writeSummary,
            after_writeReport]
          rcases before.putScript arguments.output
              (convertDump profile arguments.mode before.clock dump).script with
            ⟨failure | _, written⟩
          · rfl
          dsimp only
          rcases written.putSummary arguments
              (convertDump profile arguments.mode before.clock dump).summary with
            ⟨failure | _, summed⟩
          · rfl
          dsimp only
          rcases summed.putReport
              (convertDump profile arguments.mode before.clock dump).summary with
            ⟨failure | _, left⟩ <;> rfl

theorem exists_ends (before : Session) (arguments : Arguments) :
    ∃ result left, before.Ends arguments result left := by
  cases hprofile : before.disk.profileAt arguments.profile with
  | error failure => exact ⟨_, _, .noProfile hprofile⟩
  | ok profile =>
      cases hinput : before.disk.read arguments.input with
      | error fault => exact ⟨_, _, .noInput hprofile hinput⟩
      | ok dump =>
          have hconverts : before.Converts arguments _ := ⟨profile, dump, hprofile, hinput, rfl⟩
          rcases hscript : before.putScript arguments.output _ with ⟨failure | _, written⟩
          · exact ⟨_, _, .noScript hconverts hscript⟩
          rcases hsummary : written.putSummary arguments _ with ⟨failure | _, summed⟩
          · exact ⟨_, _, .noSummary hconverts hscript hsummary⟩
          rcases hreport : summed.putReport _ with ⟨failure | _, left⟩
          · exact ⟨_, _, .noReport hconverts hscript hsummary hreport⟩
          · exact ⟨_, _, .done hconverts hscript hsummary hreport⟩

theorem Ends.afterRun_eq {before left : Session} {arguments : Arguments}
    {result : Except Failure Unit} (h : before.Ends arguments result left) :
    before.afterRun arguments = (result, left) := by
  rw [Session.afterRun_eq]
  cases h with
  | noProfile h => simp only [h]
  | noInput hprofile h => simp only [hprofile, h]
  | noScript hconverts h =>
      obtain ⟨profile, dump, hprofile, hinput, rfl⟩ := hconverts
      simp only [hprofile, hinput, h]
  | noSummary hconverts hscript h =>
      obtain ⟨profile, dump, hprofile, hinput, rfl⟩ := hconverts
      simp only [hprofile, hinput, hscript, h]
  | noReport hconverts hscript hsummary h =>
      obtain ⟨profile, dump, hprofile, hinput, rfl⟩ := hconverts
      simp only [hprofile, hinput, hscript, hsummary, h]
  | done hconverts hscript hsummary hreport =>
      obtain ⟨profile, dump, hprofile, hinput, rfl⟩ := hconverts
      simp only [hprofile, hinput, hscript, hsummary, hreport]

/-- A run ends in exactly one way. -/
theorem afterRun_eq_iff (before : Session) (arguments : Arguments)
    (result : Except Failure Unit) (left : Session) :
    before.afterRun arguments = (result, left) ↔ before.Ends arguments result left := by
  refine ⟨fun h => ?_, Ends.afterRun_eq⟩
  obtain ⟨result', left', hends⟩ := exists_ends before arguments
  rw [hends.afterRun_eq] at h
  cases h
  exact hends

end Session

/-! ## What a write changes -/

theorem Stream.write_cases (stream : Stream) (t : Text) :
    stream.write t = (.ok (), { stream with content := stream.content ++ t }) ∨
      ∃ fault part, part <+: t ∧
        stream.write t = (.error fault, { stream with content := stream.content ++ part }) := by
  unfold Stream.write
  cases stream.refusal with
  | none => exact .inl rfl
  | some refusal => exact .inr ⟨refusal.fault, _, List.take_prefix refusal.kept t, rfl⟩

namespace Disk

/-- Only files that one of the paths leads to have changed. -/
def ChangesOnly (paths : List Text) (before after : Disk) : Prop :=
  after.locate = before.locate ∧
    ∀ name, (∀ path ∈ paths, before.locate path ≠ .file name) →
      after.entry name = before.entry name

variable {disk changed before middle after : Disk} {paths others : List Text} {path t : Text}

theorem ChangesOnly.refl (disk : Disk) : ChangesOnly [] disk disk := by
  exact ⟨rfl, fun _ _ => rfl⟩

theorem ChangesOnly.trans (h : ChangesOnly paths before middle)
    (hlater : ChangesOnly others middle after) : ChangesOnly (paths ++ others) before after := by
  refine ⟨hlater.1.trans h.1, fun name hname => ?_⟩
  rw [hlater.2 name fun path hpath => ?_, h.2 name fun path hpath => ?_]
  · exact hname path (List.mem_append_left _ hpath)
  · rw [h.1]
    exact hname path (List.mem_append_right _ hpath)

theorem changesOnly_of_write (h : disk.write path t = .ok changed) :
    ChangesOnly [path] disk changed := by
  obtain ⟨name, hplace, -, rfl⟩ := write_eq_ok_iff.mp h
  refine ⟨rfl, fun other hother => entry_put_other disk t ?_⟩
  rintro rfl
  exact hother path List.mem_cons_self hplace

theorem read_of_write (h : disk.write path t = .ok changed) : changed.read path = .ok t := by
  obtain ⟨name, hplace, -, rfl⟩ := write_eq_ok_iff.mp h
  exact read_put t hplace

theorem read_congr {other : Text} (h : disk.locate path = disk.locate other) :
    disk.read path = disk.read other := by
  simp only [Disk.read, h]

/-- What could be read is still read, if no path that changes leads to it. -/
theorem ChangesOnly.read (h : ChangesOnly paths before after) (hread : before.read path = .ok t)
    (hpaths : ∀ other ∈ paths, before.locate other ≠ before.locate path) :
    after.read path = .ok t := by
  cases hplace : before.locate path with
  | file name =>
      have hname : after.entry name = before.entry name :=
        h.2 name fun other hother => hplace ▸ hpaths other hother
      simp only [Disk.read, h.1, hplace, hname] at hread ⊢
      exact hread
  | directory =>
      simp only [Disk.read, hplace] at hread
      cases hread
  | behind name onlySlashes =>
      simp only [Disk.read, hplace] at hread
      cases hread

end Disk

namespace Session

/-- The output of a run: the file that is named, or the stream. -/
def HoldsScript (before after : Session) (script : Text) : Option Text → Prop
  | some path => after.disk.read path = .ok script ∧ after.output = before.output
  | none => after.output.content = before.output.content ++ script

variable {before written after left session : Session} {arguments : Arguments}
  {output : Option Text} {script : Text} {summary : Summary} {failure : Failure}

structure HasWritten (before after : Session) (output : Option Text) (script : Text) : Prop where
  holds : HoldsScript before after script output
  changesOnly : Disk.ChangesOnly output.toList before.disk after.disk
  report : after.report = before.report

/-- An output that fails: a file is as it was, and a stream got a beginning of the script. -/
def StopsShort (before after : Session) (script : Text) : Option Text → Prop
  | some _ => after = before
  | none => ∃ part, part <+: script ∧
      after = { before with output :=
        { before.output with content := before.output.content ++ part } }

theorem writeFile_cases (session : Session) (path t : Text) :
    (∃ disk, session.disk.write path t = .ok disk ∧
        session.writeFile path t = (.ok (), { session with disk := disk })) ∨
      ∃ fault, session.writeFile path t = (.error fault, session) := by
  unfold writeFile
  cases session.disk.write path t with
  | ok disk => exact .inl ⟨disk, rfl, rfl⟩
  | error fault => exact .inr ⟨fault, rfl⟩

theorem putScript_cases (session : Session) (output : Option Text) (script : Text) :
    (∃ written, session.putScript output script = (.ok (), written) ∧
        session.HasWritten written output script) ∨
      ∃ failure left, session.putScript output script = (.error failure, left) ∧
        session.StopsShort left script output := by
  unfold putScript
  cases output with
  | some path =>
      dsimp only
      rcases writeFile_cases session path script with ⟨disk, hwrite, hstep⟩ | ⟨fault, hstep⟩
      · rw [hstep]
        exact .inl ⟨_, rfl, ⟨Disk.read_of_write hwrite, rfl⟩, Disk.changesOnly_of_write hwrite, rfl⟩
      · rw [hstep]
        exact .inr ⟨_, _, rfl, rfl⟩
  | none =>
      unfold writeOutput
      rcases Stream.write_cases session.output script with hstep | ⟨fault, part, hpart, hstep⟩
      · rw [hstep]
        exact .inl ⟨_, rfl, rfl, .refl _, rfl⟩
      · rw [hstep]
        exact .inr ⟨_, _, rfl, part, hpart, rfl⟩

theorem hasWritten_of_putScript {written : Session}
    (h : session.putScript output script = (.ok (), written)) :
    session.HasWritten written output script := by
  rcases putScript_cases session output script with ⟨_, hput, hwritten⟩ | ⟨_, _, hput, -⟩
  · rw [hput] at h
    cases h
    exact hwritten
  · rw [hput] at h
    cases h

theorem stopsShort_of_putScript (h : session.putScript output script = (.error failure, left)) :
    session.StopsShort left script output := by
  rcases putScript_cases session output script with ⟨_, hput, -⟩ | ⟨_, _, hput, hshort⟩
  · rw [hput] at h
    cases h
  · rw [hput] at h
    cases h
    exact hshort

structure HasSummary (before after : Session) (arguments : Arguments) (summary : Summary) :
    Prop where
  holds : ∀ path ∈ arguments.summaryFile,
    after.disk.read path = .ok (summaryText arguments.mode 0 summary)
  changesOnly : Disk.ChangesOnly arguments.summaryFile.toList before.disk after.disk
  output : after.output = before.output
  report : after.report = before.report

theorem putSummary_cases (session : Session) (arguments : Arguments) (summary : Summary) :
    (∃ summed, session.putSummary arguments summary = (.ok (), summed) ∧
        session.HasSummary summed arguments summary) ∨
      ∃ failure, session.putSummary arguments summary = (.error failure, session) := by
  unfold putSummary
  cases hfile : arguments.summaryFile with
  | none =>
      have hnothing : ∀ path, path ∉ arguments.summaryFile := by simp [hfile]
      refine .inl ⟨session, rfl, fun path hpath => absurd hpath (hnothing path), ?_, rfl, rfl⟩
      rw [hfile]
      exact .refl _
  | some file =>
      dsimp only
      rcases writeFile_cases session file (summaryText arguments.mode 0 summary) with
        ⟨disk, hwrite, hstep⟩ | ⟨fault, hstep⟩
      · rw [hstep]
        refine .inl ⟨_, rfl, fun path hpath => ?_, ?_, rfl, rfl⟩
        · rw [hfile] at hpath
          cases hpath
          exact Disk.read_of_write hwrite
        · rw [hfile]
          exact Disk.changesOnly_of_write hwrite
      · rw [hstep]
        exact .inr ⟨_, rfl⟩

theorem hasSummary_of_putSummary {summed : Session}
    (h : session.putSummary arguments summary = (.ok (), summed)) :
    session.HasSummary summed arguments summary := by
  rcases putSummary_cases session arguments summary with ⟨_, hput, hsummary⟩ | ⟨_, hput⟩
  · rw [hput] at h
    cases h
    exact hsummary
  · rw [hput] at h
    cases h

theorem eq_of_putSummary (h : session.putSummary arguments summary = (.error failure, left)) :
    left = session := by
  rcases putSummary_cases session arguments summary with ⟨_, hput, -⟩ | ⟨_, hput⟩
  · rw [hput] at h
    cases h
  · rw [hput] at h
    cases h
    rfl

/-- Only the report changes, by a beginning of its text or by all of it. -/
theorem putReport_cases (session : Session) (summary : Summary) :
    session.putReport summary = (.ok (), { session with report :=
        { session.report with content := session.report.content ++ reportText summary } }) ∨
      ∃ failure report, session.putReport summary =
        (.error failure, { session with report := report }) := by
  unfold putReport writeReport
  rcases Stream.write_cases session.report (reportText summary) with
    hstep | ⟨fault, part, -, hstep⟩
  · rw [hstep]
    exact .inl rfl
  · rw [hstep]
    exact .inr ⟨_, _, rfl⟩

/-! ## What a run leaves -/

/-- The script and the summary go to one file, however the two paths are spelled. -/
def SharesFile (session : Session) (arguments : Arguments) : Prop :=
  ∃ output ∈ arguments.output, ∃ file ∈ arguments.summaryFile,
    session.disk.locate output = session.disk.locate file

/-- The output holds the whole script; a file that is shared holds the summary instead. -/
def HoldsOutput (before after : Session) (arguments : Arguments) (conversion : Conversion) :
    Prop :=
  HoldsScript before after conversion.script arguments.output ∨
    before.SharesFile arguments ∧ ∃ path ∈ arguments.output,
      after.disk.read path = .ok (summaryText arguments.mode 0 conversion.summary)

/-- The script stays where it is while the summary is written to another file. -/
theorem HasWritten.holds_of_hasSummary
    (hscript : before.HasWritten written arguments.output script)
    (hshared : ¬ before.SharesFile arguments)
    (hsummary : written.HasSummary after arguments summary) :
    HoldsScript before after script arguments.output := by
  have hheld := hscript.holds
  cases hpath : arguments.output with
  | none =>
      rw [hpath] at hheld
      simp only [HoldsScript, hsummary.output] at hheld ⊢
      exact hheld
  | some path =>
      rw [hpath] at hheld
      refine ⟨hsummary.changesOnly.read hheld.1 fun file hfile hplace => hshared ?_,
        hsummary.output.trans hheld.2⟩
      rw [hscript.changesOnly.1] at hplace
      exact ⟨path, hpath, file, Option.mem_toList.mp hfile, hplace.symm⟩

theorem HasWritten.holdsOutput {conversion : Conversion}
    (hscript : before.HasWritten written arguments.output conversion.script)
    (hsummary : written.HasSummary after arguments conversion.summary) :
    before.HoldsOutput after arguments conversion := by
  by_cases hshared : before.SharesFile arguments
  · obtain ⟨path, hpath, file, hfile, hplace⟩ := hshared
    refine .inr ⟨⟨path, hpath, file, hfile, hplace⟩, path, hpath, ?_⟩
    rw [← hsummary.holds file hfile]
    exact Disk.read_congr (by rw [hsummary.changesOnly.1, hscript.changesOnly.1, hplace])
  · exact .inl (hscript.holds_of_hasSummary hshared hsummary)

/-- A failed run changes nothing, or leaves an output that stopped short or is whole. -/
theorem Ends.eq_or_holdsOutput (h : before.Ends arguments (.error failure) left) :
    left = before ∨ ∃ conversion, before.Converts arguments conversion ∧
      (before.StopsShort left conversion.script arguments.output ∨
        before.HoldsOutput left arguments conversion) := by
  cases h with
  | noProfile => exact .inl rfl
  | noInput => exact .inl rfl
  | noScript hconverts h => exact .inr ⟨_, hconverts, .inl (stopsShort_of_putScript h)⟩
  | noSummary hconverts hscript h =>
      obtain rfl := eq_of_putSummary h
      exact .inr ⟨_, hconverts, .inr (.inl (hasWritten_of_putScript hscript).holds)⟩
  | @noReport conversion written summed left _ hconverts hscript hsummary h =>
      have houtput := (hasWritten_of_putScript hscript).holdsOutput
        (hasSummary_of_putSummary hsummary)
      rcases putReport_cases summed conversion.summary with hput | ⟨_, report, hput⟩
      · rw [hput] at h
        cases h
      · rw [hput] at h
        cases h
        exact .inr ⟨_, hconverts, .inr houtput⟩

structure HasConverted (before after : Session) (arguments : Arguments)
    (conversion : Conversion) : Prop where
  converts : before.Converts arguments conversion
  output : before.HoldsOutput after arguments conversion
  summary : ∀ path ∈ arguments.summaryFile,
    after.disk.read path = .ok (summaryText arguments.mode 0 conversion.summary)
  report : after.report.content = before.report.content ++ reportText conversion.summary
  changesOnly : Disk.ChangesOnly (arguments.output.toList ++ arguments.summaryFile.toList)
    before.disk after.disk

theorem Ends.hasConverted (h : before.Ends arguments (.ok ()) after) :
    ∃ conversion, before.HasConverted after arguments conversion := by
  cases h with
  | @done conversion written summed _ hconverts hscript hsummary hreport =>
      have hwritten := hasWritten_of_putScript hscript
      have hsummed := hasSummary_of_putSummary hsummary
      have houtput := hwritten.holdsOutput hsummed
      rcases putReport_cases summed conversion.summary with hput | ⟨_, report, hput⟩
      · rw [hput] at hreport
        cases hreport
        refine ⟨conversion, hconverts, houtput, hsummed.holds, ?_,
          hwritten.changesOnly.trans hsummed.changesOnly⟩
        rw [← hwritten.report, ← hsummed.report]
      · rw [hput] at hreport
        cases hreport

/--
A run that succeeds leaves all of its script, and one that fails leaves no part in a file.

Without a profile or a dump nothing changes.  An output that fails takes the summary and the
report with it; a file is then as it was, and a stream has got a beginning of the script.
If only the summary file is refused, the script is in its place.
-/
theorem afterRun_leaves_whole (before : Session) (arguments : Arguments) :
    (∀ failure, before.disk.profileAt arguments.profile = .error failure →
      before.afterRun arguments = (.error failure, before)) ∧
    (∀ profile fault, before.disk.profileAt arguments.profile = .ok profile →
      before.disk.read arguments.input = .error fault →
      before.afterRun arguments = (.error (.io arguments.input fault), before)) ∧
    (∀ conversion failure left, before.Converts arguments conversion →
      before.putScript arguments.output conversion.script = (.error failure, left) →
      before.afterRun arguments = (.error failure, left) ∧
        before.StopsShort left conversion.script arguments.output) ∧
    (∀ conversion written failure left, before.Converts arguments conversion →
      before.putScript arguments.output conversion.script = (.ok (), written) →
      written.putSummary arguments conversion.summary = (.error failure, left) →
      before.afterRun arguments = (.error failure, left) ∧
        before.HasWritten left arguments.output conversion.script) ∧
    (∀ after, before.afterRun arguments = (.ok (), after) →
      ∃ conversion, before.HasConverted after arguments conversion) ∧
    ∀ failure left, before.afterRun arguments = (.error failure, left) →
      left = before ∨ ∃ conversion, before.Converts arguments conversion ∧
        (before.StopsShort left conversion.script arguments.output ∨
          before.HoldsOutput left arguments conversion) := by
  refine ⟨fun failure h => ?_, fun profile fault hprofile h => ?_,
    fun conversion failure left hconverts h => ?_,
    fun conversion written failure left hconverts hscript h => ?_, fun after h => ?_,
    fun failure left h => ?_⟩
  · exact (Ends.noProfile h).afterRun_eq
  · exact (Ends.noInput hprofile h).afterRun_eq
  · exact ⟨(Ends.noScript hconverts h).afterRun_eq, stopsShort_of_putScript h⟩
  · refine ⟨(Ends.noSummary hconverts hscript h).afterRun_eq, ?_⟩
    obtain rfl := eq_of_putSummary h
    exact hasWritten_of_putScript hscript
  · exact ((afterRun_eq_iff ..).mp h).hasConverted
  · exact ((afterRun_eq_iff ..).mp h).eq_or_holdsOutput

def emptyDump : Session :=
  ofDisk (.ofFiles (.ofList [("in.sql".toList, .text [])])) (Moment.ofSeconds 0)

def converting (output summaryFile : Option Text) : Arguments :=
  { debug := false
    mode := .schema
    profile := none
    summaryFile := summaryFile
    input := "in.sql".toList
    output := output }

def emptyConversion : Conversion :=
  convertDump Profile.builtIn .schema emptyDump.clock []

theorem converts_emptyDump (output summaryFile : Option Text) :
    emptyDump.Converts (converting output summaryFile) emptyConversion := by
  exact ⟨Profile.builtIn, [], rfl, rfl, rfl⟩

/-- The summary file is a directory; the script is written nevertheless. -/
theorem afterRun_leaves_whole_refused :
    ∃ left, emptyDump.afterRun (converting (some "o.sql".toList) (some ['.'])) =
        (.error (.io ['.'] .isDirectory), left) ∧
      left.disk.read "o.sql".toList = .ok emptyConversion.script := by
  obtain ⟨hrun, hwritten⟩ := (afterRun_leaves_whole emptyDump
    (converting (some "o.sql".toList) (some ['.']))).2.2.2.1 _ _ _ _
      (converts_emptyDump _ _) rfl rfl
  exact ⟨_, hrun, hwritten.holds.1⟩

def brokenOutput : Session :=
  { emptyDump with output := ⟨[], some ⟨.other "Broken pipe (os error 32)".toList, 1⟩⟩ }

/--
Another spelling of the output path lets the summary take the place of the script, and an
output that breaks keeps the hyphen that the script begins with.
-/
theorem afterRun_leaves_no_script :
    (["in.sql".toList, "o.sql".toList, "./o.sql".toList].Nodup ∧
      ∃ left, emptyDump.afterRun (converting (some "o.sql".toList) (some "./o.sql".toList)) =
          (.ok (), left) ∧
        left.disk.read "o.sql".toList ≠ .ok emptyConversion.script) ∧
    ∃ failure left, brokenOutput.afterRun (converting none none) = (.error failure, left) ∧
      left.output.content = ['-'] ∧ ['-'] <+: emptyConversion.script ∧
      emptyConversion.script ≠ ['-'] := by
  refine ⟨⟨by decide, _, (Ends.done (converts_emptyDump _ _) rfl rfl rfl).afterRun_eq,
    fun h => ?_⟩, _, _, (Ends.noScript ⟨Profile.builtIn, [], rfl, rfl, rfl⟩ rfl).afterRun_eq,
    rfl, ?_, ?_⟩
  · -- A summary begins with a brace, and a script with the hyphens of its heading.
    have hfirst := congrArg (fun found => found.toOption.bind List.head?) h
    exact absurd hfirst (by decide +kernel)
  · decide +kernel
  · decide +kernel

end Session

end DumpConvert.Command
