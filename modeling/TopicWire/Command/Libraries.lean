import TopicWire.Capture.Log
import TopicWire.Command.Arguments

/-!
# What the inspector leaves to libraries

Two things are settled outside the inspector: which filter the text of a log level stands for, and
how a page of help is laid out. `Libraries` holds them, and a run of the inspector is given one.

Scope. A filter may be asked for in many forms, for instance source by source.
`Libraries.ReadsLevels` is all that is relied on: the name of a level alone shows the events up to
it, wherever they come from. `Libraries.basic` reads no more than that.
-/

set_option autoImplicit false
set_option relaxedAutoImplicit false

namespace TopicWire

/-- The levels that are shown at the name of a level, gravest first, and at `off` none. -/
def Level.shownAt : List (String × List Level) :=
  [("off", []), ("error", [.error]), ("warn", [.error, .warn]), ("info", [.error, .warn, .info]),
    ("debug", [.error, .warn, .info, .debug]),
    ("trace", [.error, .warn, .info, .debug, .trace])]

/-- The filter of a text that names a level, in any letter case or by its number. All other texts
are refused. -/
def LogFilter.ofName (name : String) : Except String LogFilter :=
  match String.ofList (name.toList.map Char.toLower) with
  | "off" | "0" => .ok (upTo none)
  | "error" | "1" | "" => .ok (upTo (some .error))
  | "warn" | "2" => .ok (upTo (some .warn))
  | "info" | "3" => .ok (upTo (some .info))
  | "debug" | "4" => .ok (upTo (some .debug))
  | "trace" | "5" => .ok (upTo (some .trace))
  | _ => .error "invalid filter directive"

namespace Command

/-- How the text of a log filter is read, with a report where it is none, and the lines of each page
of help. -/
structure Libraries where
  readFilter : String → Except String LogFilter
  helpPage : HelpTopic → List String

namespace Libraries

/-- The filter of a log level. A text that is no filter is taken for `info`. -/
def logFilter (libraries : Libraries) (level : String) : Except String LogFilter :=
  match libraries.readFilter level with
  | .ok filter => .ok filter
  | .error _ => (libraries.readFilter "info").mapError ("invalid log level: " ++ ·)

/-- What is relied on of the reader of filters: the name of a level is read, and as the filter of
all events of the levels that are shown at it. -/
def ReadsLevels (libraries : Libraries) : Prop :=
  ∀ entry ∈ Level.shownAt, ∃ filter, libraries.readFilter entry.1 = .ok filter ∧
    ∀ site, filter.admits site = true ↔ site.level ∈ entry.2

/-- A log level always leads to a filter, and the name of one to the filter of its levels. Assumes:
the names of levels are read. -/
theorem ReadsLevels.exists_logFilter {libraries : Libraries} (h : libraries.ReadsLevels)
    (level : String) :
    ∃ filter, libraries.logFilter level = .ok filter ∧
      ∀ levels, (level, levels) ∈ Level.shownAt →
        ∀ site, filter.admits site = true ↔ site.level ∈ levels := by
  unfold logFilter
  cases hread : libraries.readFilter level with
  | ok filter =>
    refine ⟨filter, rfl, fun levels hlevels ↦ ?_⟩
    obtain ⟨_, hnamed, hsites⟩ := h _ hlevels
    cases hread.symm.trans hnamed
    exact hsites
  | error report =>
    obtain ⟨filter, hinfo, -⟩ := h ("info", [.error, .warn, .info]) (by decide)
    refine ⟨filter, by rw [hinfo]; rfl, fun levels hlevels ↦ ?_⟩
    obtain ⟨_, hnamed, -⟩ := h _ hlevels
    cases hread.symm.trans hnamed

/-- Filters by the names of levels alone, and a line of usage for help. -/
def basic : Libraries where
  readFilter := LogFilter.ofName
  helpPage
    | .inspector => ["Usage: rekt_inspect [OPTIONS] <COMMAND>"]
    | .subcommand .dump => ["Usage: rekt_inspect dump [OPTIONS] <FILE>"]
    | .subcommand .sample => ["Usage: rekt_inspect sample [OPTIONS] <FILE>"]
    | .help => ["Usage: rekt_inspect help [COMMAND]..."]

/-- The basic libraries read the names of the levels. -/
theorem readsLevels_basic : basic.ReadsLevels := by
  have hread : ∀ (name : String) (finest : Option Level) (levels : List Level),
      basic.readFilter name = .ok (.upTo finest) →
      (∀ level : Level, finest.any (fun last ↦ level.rank ≤ last.rank) = true ↔ level ∈ levels) →
      ∃ filter, basic.readFilter name = .ok filter ∧
        ∀ site, filter.admits site = true ↔ site.level ∈ levels :=
    fun _ _ _ hname hlevels ↦ ⟨_, hname, fun site ↦ hlevels site.level⟩
  simp only [ReadsLevels, Level.shownAt, List.forall_mem_cons]
  refine ⟨hread _ none _ rfl ?_, hread _ (some .error) _ rfl ?_, hread _ (some .warn) _ rfl ?_,
    hread _ (some .info) _ rfl ?_, hread _ (some .debug) _ rfl ?_, hread _ (some .trace) _ rfl ?_,
    List.forall_mem_nil _⟩
  all_goals
    intro level
    cases level <;> decide

end Libraries

end Command

end TopicWire
