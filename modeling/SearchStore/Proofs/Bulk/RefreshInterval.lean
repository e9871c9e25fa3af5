import SearchStore.Proofs.Bulk.Load
import SearchStore.Proofs.Json.Numbers

/-!
What a refresh setting means. It is a number of seconds or milliseconds, or `-1` for no
refresh at all. So a setting tells the whole milliseconds of its interval and nothing more,
and the last setting that a load leaves behind is the interval that was asked for.
-/

namespace SearchStore

namespace RefreshInterval

def unitLength? : List Char → Option Nat
  | ['s'] => some 1000000000
  | ['m', 's'] => some 1000000
  | _ => none

def ofSetting? (setting : String) : Option RefreshInterval :=
  if setting = "-1" then some .disabled
  else
    let (count, unit) := Json.takeDigits setting.toList
    if count.isEmpty then none
    else
      let n := count.foldl (fun n c => n * 10 + Json.digitValue c) 0
      (unitLength? unit).map fun length => .every (n * length)

/-- What is left of an interval without its part of a millisecond. -/
def inMilliseconds : RefreshInterval → RefreshInterval
  | .disabled => .disabled
  | .every nanoseconds => ofMilliseconds (nanoseconds / 1000000)

/-- No unit starts with a digit. -/
theorem not_digit_of_unit {unit : List Char} {length : Nat} (h : unitLength? unit = some length) :
    ∀ c ∈ unit.head?, c.isDigit = false := by
  unfold unitLength? at h
  split at h
  · exact fun c hc => by cases hc; rfl
  · exact fun c hc => by cases hc; rfl
  · exact nomatch h

theorem ofSetting?_count (n : Nat) {unit : String} {length : Nat}
    (hunit : unitLength? unit.toList = some length) :
    ofSetting? (toString n ++ unit) = some (.every (n * length)) := by
  have htext : (toString n ++ unit).toList = Nat.toDigits 10 n ++ unit.toList := by
    rw [String.toList_append, Nat.toString_eq_repr, Nat.toList_repr]
  obtain ⟨c, digits, hdigits⟩ := List.exists_cons_of_ne_nil (Nat.toDigits_ne_nil (n := n))
  have hminus : toString n ++ unit ≠ "-1" := by
    intro hsetting
    have hchars := htext.symm.trans (congrArg String.toList hsetting)
    rw [hdigits, List.cons_append] at hchars
    have hfirst : c.isDigit = true :=
      Json.isDigit_of_mem_toDigits c (hdigits ▸ List.mem_cons_self)
    exact Json.ne_of_isDigit hfirst rfl (List.cons.inj hchars).1
  have hne : (Nat.toDigits 10 n).isEmpty = false := by rw [hdigits]; rfl
  rw [ofSetting?, if_neg hminus, htext,
    Json.takeDigits_append Json.isDigit_of_mem_toDigits (not_digit_of_unit hunit)]
  simp only [hne, Json.foldl_toDigits, hunit, Bool.false_eq_true, if_false, Option.map_some]

/-- A setting stands for its interval in whole milliseconds. -/
theorem ofSetting?_setting (interval : RefreshInterval) :
    ofSetting? interval.setting = some interval.inMilliseconds := by
  cases interval with
  | disabled => rfl
  | every nanoseconds =>
    by_cases h : nanoseconds / 1000000 % 1000 = 0
    · have hseconds : nanoseconds / 1000000 / 1000 * 1000000000 =
          nanoseconds / 1000000 * 1000000 := by omega
      simp only [setting, if_pos h]
      rw [ofSetting?_count (nanoseconds / 1000000 / 1000) rfl, hseconds]
      rfl
    · simp only [setting, if_neg h]
      rw [ofSetting?_count (nanoseconds / 1000000) rfl]
      rfl

theorem setting_inMilliseconds (interval : RefreshInterval) :
    interval.inMilliseconds.setting = interval.setting := by
  cases interval with
  | disabled => rfl
  | every nanoseconds =>
    have hwhole : nanoseconds / 1000000 * 1000000 / 1000000 = nanoseconds / 1000000 := by omega
    simp only [inMilliseconds, ofMilliseconds, setting, hwhole]

/-- Settings are told apart by whole milliseconds, and from that for no refresh. -/
theorem setting_eq_iff (first second : RefreshInterval) :
    first.setting = second.setting ↔ first.inMilliseconds = second.inMilliseconds := by
  constructor
  · intro h
    have hread := congrArg ofSetting? h
    rwa [ofSetting?_setting, ofSetting?_setting, Option.some.injEq] at hread
  · intro h
    rw [← setting_inMilliseconds first, h, setting_inMilliseconds]

theorem ofMilliseconds_inj {m n : Nat} : ofMilliseconds m = ofMilliseconds n ↔ m = n := by
  simp only [ofMilliseconds, every.injEq]
  omega

theorem inMilliseconds_ofMilliseconds (n : Nat) :
    (ofMilliseconds n).inMilliseconds = ofMilliseconds n := by
  simp only [ofMilliseconds, inMilliseconds, every.injEq]
  omega

end RefreshInterval

def Engine.Call.refreshInterval? : Engine.Call → Option (String × RefreshInterval)
  | .putSettings index settings => do
    let setting ← (settings.at? ["index", "refresh_interval"]).bind Json.asString?
    return (index, ← RefreshInterval.ofSetting? setting)
  | _ => none

namespace Repository

variable {σ : Type}

theorem refreshInterval?_refreshCall (repo : Repository σ) (interval : RefreshInterval) :
    (repo.refreshCall interval).refreshInterval? = some (repo.index, interval.inMilliseconds) := by
  have hsetting : (repo.refreshCall interval).refreshInterval? =
      (RefreshInterval.ofSetting? interval.setting).map (repo.index, ·) := by
    cases hread : RefreshInterval.ofSetting? interval.setting <;>
      simp [Engine.Call.refreshInterval?, refreshCall, Json.at?, Json.get?, Json.asString?, hread]
  rw [hsetting, RefreshInterval.ofSetting?_setting]
  rfl

/-- How a load leaves the refresh: its last call sets the configured interval, unless all of
its calls tried in vain to switch the refresh off. -/
inductive LeavesRefresh (repo : Repository σ) (before : EngineState σ) :
    Except RepositoryError Unit → EngineState σ → Prop
  | stopped {answers : List (Except EngineError Unit)} {error : EngineError}
      {after : EngineState σ} (htried : Tried repo.retry.maxAttempts answers (.error error))
      (hexchanged : before.Exchanged repo.engine (repo.refreshExchanges .disabled answers) after)
      (hdisabled : ∀ exchange ∈ repo.refreshExchanges .disabled answers,
        exchange.call.refreshInterval? = some (repo.index, .disabled)) :
      LeavesRefresh repo before (.error (.engine error)) after
  | restored {last : Engine.Call} {earlier : List Engine.Call}
      {result : Except RepositoryError Unit} {after : EngineState σ}
      (hcalls : after.calls.map Prod.snd = last :: earlier ++ before.calls.map Prod.snd)
      (hlast : last.refreshInterval? =
        some (repo.index, .ofMilliseconds repo.options.refreshIntervalMs)) :
      LeavesRefresh repo before result after

theorem calls_refreshExchanges (repo : Repository σ) (interval : RefreshInterval)
    (answers : List (Except EngineError Unit)) :
    (repo.refreshExchanges interval answers).map Exchange.call =
      List.replicate answers.length (repo.refreshCall interval) := by
  induction answers with
  | nil => rfl
  | cons answer rest ih => exact congrArg (repo.refreshCall interval :: ·) ih

theorem Loaded.leavesRefresh {repo : Repository σ} {actions : List BulkAction}
    {before after : EngineState σ} {result : Except RepositoryError Unit}
    (h : Loaded repo actions before result after) : LeavesRefresh repo before result after := by
  cases h with
  | stopped htried hexchanged =>
    refine .stopped htried hexchanged fun exchange hexchange => ?_
    obtain ⟨answer, -, rfl⟩ := List.mem_map.mp hexchange
    exact refreshInterval?_refreshCall repo .disabled
  | @completed disabling restoring sendings _ _ _ _ _ _ hrestored hexchanged =>
    -- The last attempt to switch the refresh on stands at the end of all calls.
    obtain ⟨more, hmore⟩ := Nat.exists_eq_add_one.mpr hrestored.length_pos
    have hcalls := hexchanged.calls
    rw [List.map_append, List.reverse_append, calls_refreshExchanges, List.reverse_replicate,
      hmore, List.replicate_succ, List.cons_append] at hcalls
    refine .restored hcalls ?_
    rw [refreshInterval?_refreshCall, restoredInterval,
      RefreshInterval.inMilliseconds_ofMilliseconds]

def refreshedSlowly : Repository Nat :=
  { refusingFirst with
    options := { index := "orders", bulkChunkSize := 1, refreshIntervalMs := 1500 } }

def writes : List BulkAction := [.index "a" (.str "first"), .index "b" (.str "second")]

/-- A number of milliseconds is read back from its setting, which is never that for no
refresh. Of any other interval the setting tells the whole milliseconds, and two intervals
with as many have the same setting. A load that is not cancelled leaves the configured
interval behind, unless it stopped at switching the refresh off. -/
theorem restores_configured_interval (repo : Repository σ) :
    (∀ milliseconds,
      RefreshInterval.ofSetting? (RefreshInterval.ofMilliseconds milliseconds).setting =
          some (.ofMilliseconds milliseconds) ∧
        (RefreshInterval.ofMilliseconds milliseconds).setting ≠
          RefreshInterval.disabled.setting) ∧
    (∀ nanoseconds,
      RefreshInterval.ofSetting? (RefreshInterval.every nanoseconds).setting =
        some (.ofMilliseconds (nanoseconds / 1000000))) ∧
    (∀ m n, (RefreshInterval.every m).setting = (RefreshInterval.every n).setting ↔
      m / 1000000 = n / 1000000) ∧
    ∀ actions session, 0 < repo.options.bulkChunkSize → actions ≠ [] →
      (repo.bulkWrite actions session).2.isCancelled = false →
      repo.LeavesRefresh session.state (repo.bulkWrite actions session).1
        (repo.bulkWrite actions session).2.state := by
  refine ⟨fun milliseconds => ⟨?_, fun hdisabled => ?_⟩, fun nanoseconds => ?_, fun m n => ?_,
    fun actions session hsize hactions huncancelled => ?_⟩
  · rw [RefreshInterval.ofSetting?_setting, RefreshInterval.inMilliseconds_ofMilliseconds]
  · exact nomatch (RefreshInterval.setting_eq_iff _ _).mp hdisabled
  · exact RefreshInterval.ofSetting?_setting (.every nanoseconds)
  · rw [RefreshInterval.setting_eq_iff]
    exact RefreshInterval.ofMilliseconds_inj
  · exact (loaded_bulkWrite repo hsize hactions session huncancelled).leavesRefresh

/-- A load of which the first chunk is refused leaves an interval of a second and a half. -/
theorem restores_configured_interval_refused_chunk :
    0 < refreshedSlowly.options.bulkChunkSize ∧ writes ≠ [] ∧
      (refreshedSlowly.bulkWrite writes untouched).2.isCancelled = false ∧
      refreshedSlowly.restoredInterval.setting = "1500ms" ∧
      (refreshedSlowly.bulkWrite writes untouched).1 =
        .error (.bulk (.aggregate ["chunk 0: too large"])) ∧
      refreshedSlowly.LeavesRefresh untouched.state
        (refreshedSlowly.bulkWrite writes untouched).1
        (refreshedSlowly.bulkWrite writes untouched).2.state := by
  have hwrites : writes ≠ [] := List.cons_ne_nil _ _
  have huncancelled : (refreshedSlowly.bulkWrite writes untouched).2.isCancelled = false := by
    decide +kernel
  have hleaves := (restores_configured_interval refreshedSlowly).2.2.2 writes untouched
    (by decide) hwrites huncancelled
  exact ⟨by decide, hwrites, huncancelled, by decide +kernel, by decide +kernel, hleaves⟩

end Repository

end SearchStore
