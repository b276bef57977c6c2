import VkTurn.Daemon.UpAtomicity

/-! # The files that Up stages

`Up` writes the config of a sing-box route to `singbox-<id>.json` and that of a WireGuard route to
`<interface>.conf`, both joined to the stage directory by `filepath.Join`, which cleans the path.
The control server passes any id that is not empty.
-/

namespace VkTurn.Daemon

open VkTurn.Text VkTurn.Transition

/-! ## Where a path leads -/

/-- Where some path elements lead from a directory. -/
def lead (directory elements : List String) : List String :=
  elements.foldl (fun elements element =>
    if element = "" ∨ element = "." then elements
    else if element = ".." then elements.dropLast
    else elements ++ [element]) directory

theorem cleanElements_eq (path : String) : cleanElements path = lead [] (splitOn '/' path) := rfl

theorem lead_append (directory first second : List String) :
    lead directory (first ++ second) = lead (lead directory first) second :=
  List.foldl_append

structure ProperElement (element : String) : Prop where
  notEmpty : element ≠ ""
  notDot : element ≠ "."
  notDotDot : element ≠ ".."
  single : '/' ∉ element.toList

theorem lead_proper {element : String} (proper : ProperElement element) (directory : List String) :
    lead directory [element] = directory ++ [element] := by
  simp [lead, proper.notEmpty, proper.notDot, proper.notDotDot]

/-- The path is the stage directory joined with one component. -/
def DirectChild (path : List String) : Prop :=
  ∃ element, ProperElement element ∧ path = cleanElements stageDir ++ [element]

/-- An extension of three characters or more keeps an element proper. -/
theorem ProperElement.extended {element extension : String} (single : '/' ∉ element.toList)
    (free : '/' ∉ extension.toList) (long : 3 ≤ extension.toList.length) :
    ProperElement (element ++ extension) := by
  have length : (element ++ extension).toList.length =
      element.toList.length + extension.toList.length := by
    rw [String.toList_append, List.length_append]
  have differs (short : String) (isShort : short.toList.length < 3) :
      element ++ extension ≠ short := by
    intro same
    rw [same] at length
    omega
  refine ⟨differs "" (by decide), differs "." (by decide), differs ".." (by decide), ?_⟩
  rw [String.toList_append]
  exact fun member => (List.mem_append.mp member).elim single free

theorem joined_toList (directory name : String) :
    (directory ++ "/" ++ name).toList = directory.toList ++ '/' :: name.toList := by
  simp [String.toList_append]

/-- The elements of a file name whose last one gets an extension. -/
theorem splitOn_extended (name : String) {extension : String} (free : '/' ∉ extension.toList) :
    ∃ last, '/' ∉ last.toList ∧
      splitOn '/' (name ++ extension) = (splitOn '/' name).dropLast ++ [last ++ extension] := by
  obtain ⟨init, last, split, extended⟩ := @splitOn_append_free '/' name.toList extension.toList free
  refine ⟨String.ofList last, ?_, ?_⟩
  · rw [String.toList_ofList]
    exact splitOn_part_free last (by rw [split]; simp)
  · rw [splitOn, String.toList_append, extended, splitOn, split]
    simp [List.map_append]

/-- The path of a staged file. -/
theorem cleanElements_staged (name : String) {extension : String} (free : '/' ∉ extension.toList)
    (long : 3 ≤ extension.toList.length) :
    ∃ last, ProperElement (last ++ extension) ∧
      cleanElements (stageDir ++ "/" ++ name ++ extension) =
        lead (cleanElements stageDir) (splitOn '/' name).dropLast ++ [last ++ extension] := by
  obtain ⟨last, single, extended⟩ := splitOn_extended name free
  have proper := ProperElement.extended single free long
  refine ⟨last, proper, ?_⟩
  rw [cleanElements_eq, String.append_assoc, splitOn_joined (joined_toList stageDir _), extended,
    lead_append, lead_append, lead_proper proper, ← cleanElements_eq]

theorem directChild_staged_iff (name : String) {extension : String}
    (free : '/' ∉ extension.toList) (long : 3 ≤ extension.toList.length) :
    DirectChild (cleanElements (stageDir ++ "/" ++ name ++ extension)) ↔
      lead (cleanElements stageDir) (splitOn '/' name).dropLast = cleanElements stageDir := by
  obtain ⟨last, proper, path⟩ := cleanElements_staged name free long
  rw [path]
  constructor
  · rintro ⟨element, -, same⟩
    exact List.append_inj_left' same rfl
  · intro back
    exact ⟨last ++ extension, proper, by rw [back]⟩

/-! ## Containment -/

/-- The file that `Up` writes. -/
def Manager.stagedPath (state : Manager) (spec : Spec) (wgBin : String) : Option (List String) :=
  match state.prepare spec wgBin with
  | .ok true => cfgPath spec
  | _ => none

/-- What stands before the last `/` of `singbox-<id>` leads from the stage directory back to it. -/
def LeadsBack (id : String) : Prop :=
  lead (cleanElements stageDir) (splitOn '/' ("singbox-" ++ id)).dropLast = cleanElements stageDir

instance (id : String) : Decidable (LeadsBack id) :=
  inferInstanceAs (Decidable (_ = _))

theorem leadsBack_of_free {id : String} (free : '/' ∉ id.toList) : LeadsBack id := by
  have notIn : '/' ∉ ("singbox-" ++ id).toList := by
    rw [String.toList_append]
    exact fun member => (List.mem_append.mp member).elim (by decide) free
  rw [LeadsBack, splitOn_free notIn]
  rfl

theorem free_ifaceName (id : String) : '/' ∉ (ifaceName id).toList := by
  rw [ifaceName, String.toList_append]
  intro member
  rcases List.mem_append.mp member with inPrefix | inSlug
  · exact absurd inPrefix (by decide)
  · split at inSlug
    · exact absurd inSlug (by decide)
    · rw [String.toList_ofList] at inSlug
      have kept := (List.mem_filter.mp (List.mem_of_mem_take inSlug)).2
      exact absurd kept (by decide)

/-- The config of a WireGuard route is named after its interface. -/
theorem cfgPath_wireguard {spec : Spec} (isWireguard : spec.kind = "wireguard") :
    cfgPath spec = some (cleanElements stageDir ++ [ifaceName spec.id ++ ".conf"]) := by
  have proper : ProperElement (ifaceName spec.id ++ ".conf") :=
    .extended (free_ifaceName spec.id) (by decide) (by decide)
  rw [cfgPath, if_neg (by rw [isWireguard]; decide), if_pos isWireguard, cleanElements_eq,
    String.append_assoc, splitOn_joined (joined_toList stageDir _), splitOn_free proper.single,
    lead_append, lead_proper proper, ← cleanElements_eq]

theorem directChild_singbox_iff (id : String) :
    DirectChild (cleanElements (stageDir ++ "/singbox-" ++ id ++ ".json")) ↔ LeadsBack id := by
  have joined : stageDir ++ "/singbox-" ++ id ++ ".json" =
      stageDir ++ "/" ++ ("singbox-" ++ id) ++ ".json" := by
    have split : "/singbox-" = "/" ++ "singbox-" := by decide
    rw [split]
    simp only [String.append_assoc]
  rw [joined]
  exact directChild_staged_iff ("singbox-" ++ id) (by decide) (by decide)

section Contained

variable {state : Manager} {spec : Spec} {wgBin : String} {path : List String}

theorem stagedPath_eq_some (staged : state.stagedPath spec wgBin = some path) :
    cfgPath spec = some path := by
  unfold Manager.stagedPath at staged
  split at staged
  · exact staged
  · cases staged

/-- What `Up` writes is a direct child of the stage directory, unless the id of a sing-box route
    leads out of it. -/
theorem staged_file_contained_iff (staged : state.stagedPath spec wgBin = some path) :
    DirectChild path ↔ (spec.kind = "sing-box" → LeadsBack spec.id) := by
  have isPath := stagedPath_eq_some staged
  by_cases isSingbox : spec.kind = "sing-box"
  · rw [cfgPath, if_pos isSingbox, Option.some.injEq] at isPath
    rw [← isPath, directChild_singbox_iff]
    simp [isSingbox]
  · by_cases isWireguard : spec.kind = "wireguard"
    · rw [cfgPath_wireguard isWireguard, Option.some.injEq] at isPath
      refine iff_of_true ⟨_, ?_, isPath.symm⟩ fun same => absurd same isSingbox
      exact .extended (free_ifaceName spec.id) (by decide) (by decide)
    · rw [cfgPath, if_neg isSingbox, if_neg isWireguard] at isPath
      cases isPath

end Contained

/-- A system with both binaries where nothing has been started. -/
def packagedDaemon : Manager :=
  { freshDaemon with singboxBin := "/usr/bin/sing-box" }

theorem packagedDaemon_isNew : NewManager packagedDaemon := by
  simp [NewManager, packagedDaemon, freshDaemon, ProcessTable.ownerAt]

theorem staged_file_contained_once : ∃ path,
    packagedDaemon.stagedPath ⟨"sb-a", "sing-box"⟩ "" = some path ∧ DirectChild path := by
  obtain ⟨path, staged⟩ : ∃ path,
      packagedDaemon.stagedPath ⟨"sb-a", "sing-box"⟩ "" = some path := ⟨_, rfl⟩
  have back : LeadsBack "sb-a" := leadsBack_of_free (by decide)
  exact ⟨path, staged, (staged_file_contained_iff staged).mpr fun _ => back⟩

/-- The id of a sing-box route that leads to `/etc`. -/
theorem staged_file_escapes : ¬ ∀ state spec wgBin path, daemon.Reachable NewManager state →
    state.lock = some (.starting spec) → state.stagedPath spec wgBin = some path →
      DirectChild path := by
  intro always
  obtain ⟨begun, ran, isStarting, staged⟩ : ∃ begun,
      daemon.run packagedDaemon [.up ⟨"/../../../../etc/cron", "sing-box"⟩] = some begun ∧
        begun.lock = some (.starting ⟨"/../../../../etc/cron", "sing-box"⟩) ∧
        begun.stagedPath ⟨"/../../../../etc/cron", "sing-box"⟩ "" = some ["etc", "cron.json"] :=
    ⟨_, rfl, rfl, by decide +kernel⟩
  have reached : daemon.Reachable NewManager begun :=
    Machine.Reachable.run (.start packagedDaemon_isNew) ran
  obtain ⟨element, -, same⟩ := always _ _ _ _ reached isStarting staged
  have stage : cleanElements stageDir = ["var", "lib", "vkturn"] := by decide +kernel
  rw [stage] at same
  exact absurd (congrArg List.length same) (by simp)

end VkTurn.Daemon
