import CommandDocs.Corpus.Run
import CommandDocs.Proofs.File.Agreement

/-!
# Noting events

Where events are written to a log file, noting one changes that file and no other. What
lies elsewhere can be read as if nothing had been noted.
-/

namespace CommandDocs.RunState

open FileSystem

variable {s s' s'' : RunState} {p : Path}

/-- The place of the log file, if events are written to one. -/
def logPlace? (s : RunState) : Option Place := s.logFile.map fun log => s.files.placeOf log.path

/-- Between two states nothing happened but that events were noted. -/
structure OnlyNoted (s s' : RunState) : Prop where
  /-- Files differ at most in the log. -/
  files : AgreesOff s.logPlace? s.files s'.files
  /-- The log stays where it is. -/
  logPlace : s'.logPlace? = s.logPlace?

/-- Nothing happens between a state and itself. -/
theorem OnlyNoted.refl (s : RunState) : OnlyNoted s s := ⟨.refl _ _, rfl⟩

/-- Events are noted one after the other. -/
theorem OnlyNoted.trans (h : OnlyNoted s s') (h' : OnlyNoted s' s'') : OnlyNoted s s'' :=
  ⟨h.files.trans (h.logPlace ▸ h'.files), h'.logPlace.trans h.logPlace⟩

/-- What was apart from the log stays apart from it. -/
theorem OnlyNoted.apart (h : OnlyNoted s s') (hp : s.logPlace? ≠ some (s.files.placeOf p)) :
    s'.logPlace? ≠ some (s'.files.placeOf p) := by
  rw [h.logPlace, h.files.placeOf_eq]
  exact hp

/-- What was apart from the log can be read as before. -/
theorem OnlyNoted.sameContent (h : OnlyNoted s s')
    (hp : s.logPlace? ≠ some (s.files.placeOf p)) : SameContent p s.files s'.files :=
  fun _ => ⟨h.files.symm.readFile (h.files.placeOf_eq p ▸ hp), h.files.readFile hp⟩

/-- Where neither files nor the log file change, nothing happened. -/
theorem OnlyNoted.of_eq (hfiles : s'.files = s.files) (hlog : s'.logFile = s.logFile) :
    OnlyNoted s s' := by
  refine ⟨?_, ?_⟩
  · rw [hfiles]
    exact .refl _ _
  · rw [logPlace?, logPlace?, hlog, hfiles]

/-- Where only the log changes and stays the log, only events were noted. -/
theorem OnlyNoted.of_agreesOff {log log' : LogFile} (hlog : s.logFile = some log)
    (hlog' : s'.logFile = some log') (hpath : log'.path = log.path)
    (hfiles : AgreesOff (some (s.files.placeOf log.path)) s.files s'.files) : OnlyNoted s s' := by
  have hplace : s.logPlace? = some (s.files.placeOf log.path) := by
    rw [logPlace?, hlog, Option.map_some]
  refine ⟨hplace ▸ hfiles, ?_⟩
  rw [hplace, logPlace?, hlog', Option.map_some, hpath, hfiles.placeOf_eq]

/-- Noting an event does nothing else. -/
theorem onlyNoted_note (s : RunState) (e : LogEvent) : OnlyNoted s (s.note e) := by
  unfold note
  split
  · exact .of_eq rfl rfl
  · rename_i log hlog
    split
    · exact .of_eq rfl rfl
    · refine .of_agreesOff hlog rfl rfl ?_
      dsimp only
      split
      · rename_i files happend
        exact .of_updateFile happend
      · exact .refl _ _

end CommandDocs.RunState
