import Mathlib.Data.List.Nodup
import ProcessLaunch.Engine.Uuid
import ProcessLaunch.Proofs.Engine.SessionLog

/-!
# What a log keeps

However a session goes on, the versions of every key count from one, every instance runs a
definition of the log, and all ids of the log come from different numbers of the supply.
-/

namespace ProcessLaunch

/-! ## 1. Ids and their stems -/

namespace IdSupply

/-- Whether the ids that a supply is yet to issue, up to a number, are distinct, and hold no mark of
the kind that the parts of a definition id are set apart by. -/
structure Fresh (ids : IdSupply) (last : Nat) : Prop where
  unmarked : ∀ n, ':' ∉ (ids.text n).toList
  distinct : ∀ m n, ids.issued < m → m ≤ last → ids.issued < n → n ≤ last →
    ids.text m = ids.text n → m = n

def stem (id : String) : List Char := (id.toList.reverse.takeWhile (· != ':')).reverse

theorem takeWhile_reverse_of_unmarked {t : List Char} (h : ':' ∉ t) (rest : List Char) :
    (t.reverse ++ rest).takeWhile (· != ':') = t.reverse ++ rest.takeWhile (· != ':') := by
  apply List.takeWhile_append_of_pos
  intro c hc
  have hne : c ≠ ':' := fun heq => h (heq ▸ List.mem_reverse.mp hc)
  simpa using hne

theorem stem_of_unmarked {id : String} (h : ':' ∉ id.toList) : stem id = id.toList := by
  have htake := takeWhile_reverse_of_unmarked h []
  rw [List.append_nil, List.takeWhile_nil, List.append_nil] at htake
  rw [stem, htake, List.reverse_reverse]

/-- The stem of a definition id is the id that was issued for it. -/
theorem stem_definition (key : String) (version : Nat) {text : String} (h : ':' ∉ text.toList) :
    stem s!"{key}:{version}:{text}" = text.toList := by
  have hid : s!"{key}:{version}:{text}".toList =
      s!"{key}:{version}".toList ++ ':' :: text.toList := by
    rw [String.toList_append, String.toList_append, List.append_assoc]
    rfl
  rw [stem, hid, List.reverse_append, List.reverse_cons, List.append_assoc,
    takeWhile_reverse_of_unmarked h, List.singleton_append, List.takeWhile_cons_of_neg (by decide),
    List.append_nil, List.reverse_reverse]

/-- Whether ids were issued by a supply under different numbers, all of them after a first one. -/
def Issued (ids : IdSupply) (first : Nat) (list : List String) : Prop :=
  ∃ numbers : List Nat, numbers.Nodup ∧ (∀ n ∈ numbers, first < n ∧ n ≤ ids.issued) ∧
    (list.map stem).Perm (numbers.map fun n => (ids.text n).toList)

namespace Issued

variable {ids : IdSupply} {first : Nat} {list : List String}

theorem nil : Issued ids first [] := ⟨[], List.nodup_nil, fun _ h => absurd h List.not_mem_nil, .nil⟩

theorem skip (h : Issued ids first list) (n : Nat) : Issued (ids.skip n) first list := by
  obtain ⟨numbers, hnodup, hbounds, hperm⟩ := h
  refine ⟨numbers, hnodup, fun m hm => ⟨(hbounds m hm).1, ?_⟩, hperm⟩
  exact Nat.le_add_right_of_le (hbounds m hm).2

/-- Behind issued ids come those of the next numbers. -/
theorem append (h : Issued ids first list) (hfirst : first ≤ ids.issued) {new : List String} {n : Nat}
    (hnew : new.map stem =
      (List.range' (ids.issued + 1) n).map fun n => (ids.text n).toList) {all : List String}
    (hall : all.Perm (list ++ new)) : Issued (ids.skip n) first all := by
  obtain ⟨numbers, hnodup, hbounds, hperm⟩ := h
  -- the new ids have the numbers that come next
  refine ⟨numbers ++ List.range' (ids.issued + 1) n, ?_, ?_, ?_⟩
  · refine List.nodup_append.mpr ⟨hnodup, List.nodup_range', fun a ha b hb => ?_⟩
    have hold := (hbounds a ha).2
    have hlater := (List.mem_range'_1.mp hb).1
    omega
  · intro m hm
    show first < m ∧ m ≤ ids.issued + n
    obtain hm | hm := List.mem_append.mp hm
    · have := hbounds m hm
      omega
    · have := List.mem_range'_1.mp hm
      omega
  · refine (hall.map stem).trans ?_
    rw [List.map_append, List.map_append, hnew]
    exact hperm.append_right _

/-- Ids that were issued under different numbers differ, if the supply is fresh. -/
theorem nodup {supply : IdSupply} (h : Issued ids supply.issued list)
    (htext : ids.text = supply.text) (hfresh : supply.Fresh ids.issued) : list.Nodup := by
  obtain ⟨numbers, hnodup, hbounds, hperm⟩ := h
  -- ids are told apart by their stems, and these by the numbers that they were issued under
  apply List.Nodup.of_map stem
  rw [hperm.nodup_iff]
  refine hnodup.map_on fun m hm n hn heq => ?_
  rw [htext] at heq
  exact hfresh.distinct m n (hbounds m hm).1 (hbounds m hm).2 (hbounds n hn).1 (hbounds n hn).2
    (String.toList_inj.mp heq)

end Issued

end IdSupply

namespace Uuid

theorem hexDigit_ne_colon (n : Nat) : Text.hexDigit n ≠ ':' := by
  have hdigits : ∀ d < 16, Nat.digitChar d ≠ ':' := by decide
  exact hdigits (n % 16) (Nat.mod_lt _ (by decide))

/-- No id that is made of random bytes has a colon in it. -/
theorem unmarked_text (bytes : List UInt8) : ':' ∉ (text bytes).toList := by
  intro h
  rw [text, String.toList_ofList] at h
  obtain ⟨part, hpart, hcolon⟩ := List.mem_flatten.mp h
  obtain ⟨place, byte, rfl⟩ := List.mem_mapIdx.mp hpart
  obtain hdash | hdigit := List.mem_append.mp hcolon
  · split at hdash
    · exact absurd (List.mem_singleton.mp hdash) (by decide)
    · cases hdash
  · obtain heq | htail := List.mem_cons.mp hdigit
    · exact hexDigit_ne_colon _ heq.symm
    · exact hexDigit_ne_colon _ (List.mem_singleton.mp htail).symm

/-- Random ids are fresh if they differ from each other. -/
theorem fresh_supply {random : List UInt8} {last : Nat}
    (h : ∀ m ≤ last, ∀ n ≤ last, 0 < m → 0 < n →
      (supply random).text m = (supply random).text n → m = n) : (supply random).Fresh last where
  unmarked _ := unmarked_text _
  distinct m n hm hmlast hn hnlast := h m hmlast n hnlast hm hn

end Uuid

namespace RegistryLog

open IdSupply (stem stem_of_unmarked stem_definition Issued)

def ids (log : RegistryLog) : List String :=
  log.definitions.map ProcessDefinition.id ++ log.deployments.map Deployment.id ++
    log.instances.map ProcessInstance.id

/-- The ids of new definitions are issued one behind the other. -/
theorem map_stem_newDefinitions (earlier : List String) (ids : IdSupply)
    (hids : ∀ n, ':' ∉ (ids.text n).toList) (resource : String) (keys : List String) :
    (newDefinitions earlier ids resource keys).map (fun definition => stem definition.id) =
      (List.range' (ids.issued + 1) keys.length).map fun n => (ids.text n).toList := by
  -- each key takes one id, and counts as an earlier one for the keys behind it
  induction keys generalizing earlier ids with
  | nil => rfl
  | cons key keys ih =>
      have hstem : stem s!"{key}:{1 + earlier.count key}:{ids.next}" =
          (ids.text (ids.issued + 1)).toList := stem_definition key _ (hids _)
      rw [newDefinitions_cons, List.map_cons, ih _ ids.advance hids, List.length_cons,
        List.range'_succ, List.map_cons]
      exact congrArg (· :: _) hstem

/-! ## 2. Versions -/

/-- Whether the versions of every key count from one. -/
def Numbered (definitions : List ProcessDefinition) : Prop :=
  ∀ key i definition, (definitions.filter (·.key = key))[i]? = some definition →
    definition.version = i + 1

theorem numbered_nil : Numbered [] := by
  intro key i definition h
  cases h

/-- A definition that counts the earlier ones of its key keeps the numbering. -/
theorem Numbered.concat {definitions : List ProcessDefinition} (h : Numbered definitions)
    {definition : ProcessDefinition}
    (hversion : definition.version =
      1 + (definitions.map ProcessDefinition.key).count definition.key) :
    Numbered (definitions ++ [definition]) := by
  intro key i other hother
  rw [List.filter_append] at hother
  by_cases hkey : definition.key = key
  · subst hkey
    -- the new version stands behind all that the key has had
    have hcount : (definitions.filter (·.key = definition.key)).length =
        (definitions.map ProcessDefinition.key).count definition.key := by
      rw [List.count_eq_countP, List.countP_map, List.countP_eq_length_filter]
      rfl
    rw [List.filter_cons_of_pos (by simp), List.filter_nil] at hother
    by_cases hi : i < (definitions.filter (·.key = definition.key)).length
    · rw [List.getElem?_append_left hi] at hother
      exact h _ i other hother
    · rw [List.getElem?_append_right (Nat.not_lt.mp hi)] at hother
      obtain ⟨hlast, -⟩ := List.getElem?_eq_some_iff.mp hother
      obtain rfl := List.mem_singleton.mp (List.mem_of_getElem? hother)
      rw [List.length_singleton] at hlast
      omega
  · rw [List.filter_cons_of_neg (by simpa using hkey), List.filter_nil, List.append_nil] at hother
    exact h key i other hother

/-- The definitions of a deployment keep the numbering, also where they have a key in common. -/
theorem Numbered.append_newDefinitions {definitions : List ProcessDefinition}
    (h : Numbered definitions) (ids : IdSupply) (resource : String) (keys : List String) :
    Numbered (definitions ++
      newDefinitions (definitions.map ProcessDefinition.key) ids resource keys) := by
  induction keys generalizing definitions ids with
  | nil =>
      rw [newDefinitions_nil, List.append_nil]
      exact h
  | cons key keys ih =>
      let definition : ProcessDefinition :=
        { id := s!"{key}:{1 + (definitions.map ProcessDefinition.key).count key}:{ids.next}", key
          version := 1 + (definitions.map ProcessDefinition.key).count key, resource }
      have hconcat : Numbered (definitions ++ [definition]) := h.concat rfl
      have hnext := ih hconcat ids.advance
      rw [List.map_append, List.append_assoc] at hnext
      rw [newDefinitions_cons]
      exact hnext

/-! ## 3. Sound logs -/

/-- Whether an instance runs one of some definitions, under its key. -/
structure Runs (started : ProcessInstance) (definitions : List ProcessDefinition) : Prop where
  notEnded : started.ended = false
  notSuspended : started.suspended = false
  noBusinessKey : started.businessKey = none
  defined : ∃ definition ∈ definitions,
    definition.key = started.definitionKey ∧ definition.id = started.definitionId

theorem Runs.append {started : ProcessInstance} {definitions : List ProcessDefinition}
    (h : Runs started definitions) (more : List ProcessDefinition) :
    Runs started (definitions ++ more) := by
  obtain ⟨definition, hmem, hdefinition⟩ := h.defined
  exact { h with defined := ⟨definition, List.mem_append_left _ hmem, hdefinition⟩ }

/-- What every log keeps whose ids were issued after a first one. -/
structure Sound (log : RegistryLog) (ids : IdSupply) (first : Nat) : Prop where
  numbered : Numbered log.definitions
  running : ∀ started ∈ log.instances, Runs started log.definitions
  issued : Issued ids first log.ids

/-- How one step may change a log, and how many ids it takes. -/
inductive Change (ids : IdSupply) (log : RegistryLog) : Nat → RegistryLog → Prop
  | same (n : Nat) : Change ids log n log
  | deployed (request : DeploymentRequest) (keys : List String) :
      Change ids log (keys.length + 1) (log.deployed (log.newDeployment ids request keys))
  | started {key : String} {definition : ProcessDefinition} (h : log.last? key = some definition) :
      Change ids log 1 (log.started (newInstance ids definition))

namespace Sound

variable {log : RegistryLog} {ids : IdSupply} {first : Nat}

theorem empty : Sound .empty ids first where
  numbered := numbered_nil
  running _ h := absurd h List.not_mem_nil
  issued := .nil

theorem deployed (h : log.Sound ids first) (hids : ∀ n, ':' ∉ (ids.text n).toList)
    (hfirst : first ≤ ids.issued) (request : DeploymentRequest) (keys : List String) :
    (log.deployed (log.newDeployment ids request keys)).Sound (ids.skip (keys.length + 1))
      first := by
  have hdefinitions : (log.deployed (log.newDeployment ids request keys)).definitions =
      log.definitions ++ newDefinitions log.keys ids request.resource keys :=
    definitions_deployed log _
  constructor
  · rw [hdefinitions]
    exact h.numbered.append_newDefinitions ids request.resource keys
  · rw [hdefinitions]
    exact fun started hstarted => (h.running started hstarted).append _
  · -- the ids of the definitions come first, and that of the deployment behind them
    let new := (newDefinitions log.keys ids request.resource keys).map ProcessDefinition.id ++
      [ids.text (ids.issued + keys.length + 1)]
    have hnew : new.map stem =
        (List.range' (ids.issued + 1) (keys.length + 1)).map fun n => (ids.text n).toList := by
      have hstem : stem (ids.text (ids.issued + keys.length + 1)) =
          (ids.text (ids.issued + 1 + keys.length)).toList := by
        rw [stem_of_unmarked (hids _), Nat.add_right_comm]
      rw [List.map_append, List.map_map, List.range'_1_concat, List.map_append]
      exact congrArg₂ (· ++ ·) (map_stem_newDefinitions _ ids hids _ keys)
        (congrArg (fun t => [t]) hstem)
    refine h.issued.append hfirst hnew (List.perm_iff_count.mpr fun id => ?_)
    rw [RegistryLog.ids, RegistryLog.ids, hdefinitions]
    simp only [RegistryLog.deployed, newDeployment, new, List.map_append, List.count_append,
      List.map_cons, List.map_nil]
    omega

theorem started (h : log.Sound ids first) (hids : ∀ n, ':' ∉ (ids.text n).toList)
    (hfirst : first ≤ ids.issued) {key : String} {definition : ProcessDefinition}
    (hlast : log.last? key = some definition) :
    (log.started (newInstance ids definition)).Sound (ids.skip 1) first := by
  constructor
  · exact h.numbered
  · intro started hstarted
    obtain hold | hnew := List.mem_append.mp hstarted
    · exact h.running started hold
    · obtain rfl := List.mem_singleton.mp hnew
      have hmem := (List.mem_filter.mp (List.mem_of_getLast? hlast)).1
      exact ⟨rfl, rfl, rfl, definition, hmem, rfl, rfl⟩
  · have hnew : [ids.text (ids.issued + 1)].map stem =
        (List.range' (ids.issued + 1) 1).map fun n => (ids.text n).toList :=
      congrArg (fun t => [t]) (stem_of_unmarked (hids _))
    refine h.issued.append hfirst hnew (List.Perm.of_eq ?_)
    rw [RegistryLog.ids, RegistryLog.ids, List.append_assoc _ _ [_]]
    exact congrArg _ List.map_append

/-- Whatever a step changes, a sound log stays sound. -/
theorem change (h : log.Sound ids first) (hids : ∀ n, ':' ∉ (ids.text n).toList)
    (hfirst : first ≤ ids.issued) {n : Nat} {next : RegistryLog} (hchange : Change ids log n next) :
    next.Sound (ids.skip n) first := by
  cases hchange with
  | same => exact { h with issued := h.issued.skip n }
  | deployed request keys => exact h.deployed hids hfirst request keys
  | started hlast => exact h.started hids hfirst hlast

end Sound

end RegistryLog

end ProcessLaunch
