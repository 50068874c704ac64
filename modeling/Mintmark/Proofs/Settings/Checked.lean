import Mintmark.Proofs.Json.Decoded
import Mintmark.Proofs.Number.Characters
import Mintmark.Proofs.Settings.Texts
import Mintmark.Settings.Check

/-!
# Settings that pass their check

The check of settings asks for a scheme in the address of the chosen store and for a slash in front
of the path of the metrics. A colon and a slash stand in no number.
-/

namespace Mintmark

namespace Net.Url

theorem mem_of_mem_clean {c : Char} {cs : List Char} (member : c ∈ clean cs) : c ∈ cs := by
  have kept := List.mem_reverse.mp (List.mem_filter.mp member).1
  have kept := List.mem_reverse.mp ((List.dropWhile_sublist _).subset kept)
  exact (List.dropWhile_sublist _).subset kept

/-- A colon stands behind the scheme. -/
theorem mem_of_scheme {url name : String} (read : scheme url = .ok name) : ':' ∈ url.toList := by
  unfold scheme at read
  split at read
  · cases read
  · next front =>
    unfold scheme? at front
    split at front
    · next behind =>
      have colon : ':' ∈ (clean url.toList).dropWhile isSchemeChar := by
        rw [behind]
        exact List.mem_cons_self
      exact mem_of_mem_clean ((List.dropWhile_sublist _).subset colon)
    · cases front

end Net.Url

namespace Settings

theorem eq_false_of_refuseIf {bad : Bool} {fault : SettingFault}
    (passed : refuseIf bad fault = .ok ()) : bad = false := by
  cases bad with
  | true => cases passed
  | false => rfl

theorem mem_of_checkUrl {key url : String} {schemes : List String}
    (passed : checkUrl key url schemes = .ok ()) : ':' ∈ url.toList := by
  obtain ⟨_, -, passed⟩ := exists_of_bind passed
  obtain ⟨scheme, read, -⟩ := exists_of_bind passed
  cases found : Net.Url.scheme url with
  | error fault =>
    rw [found] at read
    cases read
  | ok scheme => exact Net.Url.mem_of_scheme found

theorem passed_of_check {s : Settings} (accepted : s.check = .ok ()) :
    s.stores.check = .ok () ∧ s.observability.metricsPath.startsWith "/" = true := by
  obtain ⟨_, -, behind⟩ := exists_of_bind accepted
  obtain ⟨⟨⟩, stores, behind⟩ := exists_of_bind behind
  obtain ⟨_, -, behind⟩ := exists_of_bind behind
  obtain ⟨_, -, last⟩ := exists_of_bind behind
  exact ⟨stores, by simpa using eq_false_of_refuseIf last⟩

/-- The check looks into this text: it is the path of the metrics or the address of the chosen
store. -/
inductive Examined (s : Settings) : TextSetting → Prop
  | metricsPath : Examined s .metricsPath
  | redisUrl (chosen : s.stores.kind = .redis) : Examined s .redisUrl
  | mysqlUrl (chosen : s.stores.kind = .mysql) : Examined s .mysqlUrl
  | postgresqlUrl (chosen : s.stores.kind = .postgresql) : Examined s .postgresqlUrl

theorem Examined.exists_mark {s : Settings} {setting : TextSetting} (examined : Examined s setting)
    (accepted : s.check = .ok ()) :
    ∃ c ∈ (setting.get s).toList, Number.isNumberChar c = false := by
  obtain ⟨stores, starts⟩ := passed_of_check accepted
  unfold Stores.check at stores
  cases examined with
  | metricsPath =>
    obtain ⟨rest, split⟩ := String.startsWith_string_iff.mp starts
    refine ⟨'/', ?_, by decide⟩
    rw [TextSetting.get, ← split]
    exact List.mem_cons_self
  | redisUrl chosen =>
    rw [chosen] at stores
    obtain ⟨⟨⟩, url, -⟩ := exists_of_bind stores
    exact ⟨':', mem_of_checkUrl url, by decide⟩
  | mysqlUrl chosen =>
    rw [chosen] at stores
    obtain ⟨⟨⟩, url, -⟩ := exists_of_bind stores
    exact ⟨':', mem_of_checkUrl url, by decide⟩
  | postgresqlUrl chosen =>
    rw [chosen] at stores
    obtain ⟨⟨⟩, url, -⟩ := exists_of_bind stores
    exact ⟨':', mem_of_checkUrl url, by decide⟩

end Settings
end Mintmark
