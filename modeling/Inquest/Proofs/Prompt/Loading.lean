import Inquest.Prompt.Directory
import Inquest.Proofs.Json.Records
import Inquest.Proofs.Prompt.Naming
import Inquest.Proofs.Text.Encoding
import Mathlib.Data.List.Sort
import Mathlib.Data.List.Nodup

/-! # The files that a store is loaded from

What is loaded hangs on the template files that have a text and on the two shared files. The order in
which a directory is listed and the other entries that it holds (`PassedOver`) make no difference, to a
store or to the error that is told instead. Nor does the order of templates to what comes of a profile,
which asks how many of them are for it.

* `sorted_eq_of_perm`: a listing's order says nothing, as names are distinct.
* `readTemplates_append_cons`: an entry that is passed over may stand anywhere.
* `readTemplates_eq_ok`: the templates that are read, one for each file that makes one.
* `resolve_eq_text_iff`: a text comes of the only template for a profile.
-/

namespace Inquest

open Text.Utf8 (encode decode?)

namespace Listing

variable {entries entries' before after : Listing}

/-- No name stands for two entries. -/
def Distinct (entries : Listing) : Prop := (entries.map Prod.fst).Nodup

/-! ## Order -/

theorem insert_eq_orderedInsert (e : List UInt8 × Entry) (entries : Listing) :
    insert e entries = entries.orderedInsert (fun a b => a.1 ≤ b.1) e := by
  induction entries with
  | nil => rfl
  | cons f rest ih =>
    rw [insert, List.orderedInsert_cons, ih]
    by_cases h : f.1 < e.1
    · rw [if_pos h, if_neg (List.not_le.2 h)]
    · rw [if_neg h, if_pos (List.not_lt.1 h)]

theorem sorted_eq_insertionSort (entries : Listing) :
    entries.sorted = entries.insertionSort fun a b => a.1 ≤ b.1 := by
  induction entries with
  | nil => rfl
  | cons e rest ih =>
    rw [List.insertionSort_cons, ← ih]
    exact insert_eq_orderedInsert e _

theorem sorted_perm (entries : Listing) : entries.sorted.Perm entries := by
  rw [sorted_eq_insertionSort]
  exact List.perm_insertionSort _ entries

theorem sorted_pairwise (entries : Listing) : entries.sorted.Pairwise fun a b => a.1 ≤ b.1 := by
  have : Std.Total fun a b : List UInt8 × Entry => a.1 ≤ b.1 := ⟨fun a b => List.le_total a.1 b.1⟩
  have : IsTrans (List UInt8 × Entry) fun a b => a.1 ≤ b.1 := ⟨fun _ _ _ => List.le_trans⟩
  rw [sorted_eq_insertionSort]
  exact List.pairwise_insertionSort _ entries

/-- There is one way to put entries with distinct names in order. -/
theorem eq_sorted (hdistinct : entries.Distinct) (hperm : entries'.Perm entries)
    (horder : entries'.Pairwise fun a b => a.1 ≤ b.1) : entries' = entries.sorted := by
  refine List.Perm.eq_of_pairwise (fun a b ha hb hab hba => ?_) horder (sorted_pairwise entries)
    (hperm.trans (sorted_perm entries).symm)
  exact List.inj_on_of_nodup_map hdistinct (hperm.subset ha) ((sorted_perm entries).subset hb)
    (List.le_antisymm hab hba)

theorem sorted_eq_of_perm (hdistinct : entries.Distinct) (hperm : entries'.Perm entries) :
    entries'.sorted = entries.sorted :=
  eq_sorted hdistinct ((sorted_perm entries').trans hperm) (sorted_pairwise entries')

/-- Entries in order are in order without one of them. -/
theorem sorted_append_cons {e : List UInt8 × Entry} (hdistinct : (before ++ e :: after).Distinct) :
    ∃ lower upper, (before ++ e :: after).sorted = lower ++ e :: upper ∧
      (before ++ after).sorted = lower ++ upper := by
  have hmem : e ∈ (before ++ e :: after).sorted :=
    (sorted_perm _).symm.subset (List.mem_append_right _ List.mem_cons_self)
  obtain ⟨lower, upper, hsplit⟩ := List.append_of_mem hmem
  have hpart : List.Sublist (lower ++ upper) (lower ++ e :: upper) :=
    (List.sublist_cons_self e upper).append_left lower
  have hperm : (lower ++ upper).Perm (before ++ after) := by
    have h := sorted_perm (before ++ e :: after)
    rw [hsplit] at h
    exact (List.perm_middle.symm.trans (h.trans List.perm_middle)).cons_inv
  have hdistinct' : (before ++ after).Distinct :=
    hdistinct.sublist (((List.sublist_cons_self e after).append_left before).map _)
  have horder := sorted_pairwise (before ++ e :: after)
  rw [hsplit] at horder
  exact ⟨lower, upper, hsplit, (eq_sorted hdistinct' hperm (horder.sublist hpart)).symm⟩

/-! ## What stands under a name -/

theorem lookup_eq_some_iff_mem (hdistinct : entries.Distinct) {name : List UInt8} {e : Entry} :
    entries.lookup name = some e ↔ (name, e) ∈ entries := by
  rw [List.lookup_eq_some_iff]
  constructor
  · rintro ⟨before, after, rfl, -⟩
    exact List.mem_append_right _ List.mem_cons_self
  · intro h
    obtain ⟨before, after, rfl⟩ := List.append_of_mem h
    refine ⟨before, after, rfl, fun p hp => bne_iff_ne.2 fun heq => ?_⟩
    rw [Distinct, List.map_append, List.nodup_append] at hdistinct
    exact hdistinct.2.2 p.1 (List.mem_map_of_mem hp) name (List.mem_map_of_mem List.mem_cons_self)
      heq.symm

theorem find_eq_of_perm (hdistinct : entries.Distinct) (hperm : entries'.Perm entries)
    (name : String) : entries'.find name = entries.find name := by
  have hdistinct' : entries'.Distinct := (hperm.map Prod.fst).nodup_iff.2 hdistinct
  have hlookup : entries'.lookup (encode name) = entries.lookup (encode name) := by
    refine Option.ext fun e => ?_
    rw [lookup_eq_some_iff_mem hdistinct', lookup_eq_some_iff_mem hdistinct, hperm.mem_iff]
  rw [find, find, hlookup]

theorem find_append_cons {name : List UInt8} (e : Entry) {asked : String}
    (h : name ≠ encode asked) :
    (before ++ (name, e) :: after).find asked = (before ++ after).find asked := by
  have hlookup : (before ++ (name, e) :: after).lookup (encode asked) =
      (before ++ after).lookup (encode asked) := by
    have hne : (encode asked == name) = false := beq_false_of_ne h.symm
    rw [List.lookup_append, List.lookup_append, List.lookup_cons, hne]
  rw [find, find, hlookup]

end Listing

namespace PromptStore

open Template (stemFor)

variable {place tag : String}

/-! ## Templates -/

/-- The names that are read, and what is read of them. -/
theorem named?_eq_some_iff {name : List UInt8} {role : String} {isCulprit : Bool} :
    named? tag name = some (role, isCulprit) ↔
      ∃ raw, Text.isBlank raw = false ∧ fileStem name = encode (stemFor tag raw isCulprit) ∧
        role = normalizeRole raw := by
  rw [named?, Option.bind_eq_bind, Option.bind_eq_some_iff]
  constructor
  · rintro ⟨stem, hstem, hread⟩
    obtain ⟨raw, hraw, hname, hrole⟩ := Template.ofStem?_eq_some_iff.1 hread
    exact ⟨raw, hraw, hname ▸ Text.Utf8.decode?_eq_some_iff.1 hstem, hrole⟩
  · rintro ⟨raw, hraw, hname, hrole⟩
    refine ⟨(stemFor tag raw isCulprit).toList, ?_, ?_⟩
    · rw [hname, Text.Utf8.decode?_encode]
    · exact Template.ofStem?_eq_some_iff.2 ⟨raw, hraw, String.ofList_toList, hrole⟩

/-- An entry that no template is made of: a directory, a file whose stem does not follow the scheme
or is no text at all, and a file without a text. -/
inductive PassedOver (tag : String) : List UInt8 × Entry → Prop
  | directory (name : List UInt8) (entries : List (String × Entry)) :
    PassedOver tag (name, .directory entries)
  | otherwiseNamed {name : List UInt8} (bytes : List UInt8)
    (h : ∀ role isCulprit, Text.isBlank role = false →
      fileStem name ≠ encode (stemFor tag role isCulprit)) : PassedOver tag (name, .file bytes)
  | blank (name : List UInt8) {text : String} (h : Text.isBlank text = true) :
    PassedOver tag (name, .file (encode text))

/-- A file that a template for a role and kind is made of. -/
structure Makes (tag role : String) (isCulprit : Bool) (text : String) (e : List UInt8 × Entry) :
    Prop where
  named : ∃ raw, Text.isBlank raw = false ∧ fileStem e.1 = encode (stemFor tag raw isCulprit) ∧
    normalizeRole raw = role
  told : Text.isBlank text = false
  file : e.2 = .file (encode text)

theorem readText_encode (text : String) : (Entry.file (encode text)).readText = .ok text := by
  rw [Entry.readText, Text.Utf8.decode?_encode]
  simp

theorem readText_eq_ok {bytes : List UInt8} {path text : String}
    (h : reading path (Entry.file bytes).readText = .ok text) :
    decode? bytes = some text.toList := by
  rw [Entry.readText] at h
  cases hbytes : decode? bytes with
  | none =>
    rw [hbytes] at h
    cases h
  | some chars =>
    rw [hbytes] at h
    obtain rfl : String.ofList chars = text := Except.ok.inj h
    rw [String.toList_ofList]

/-- An entry that is passed over says nothing, whatever is read after it. -/
theorem readTemplates_passedOver {e : List UInt8 × Entry} (h : PassedOver tag e) (rest : Listing) :
    readTemplates place tag (e :: rest) = readTemplates place tag rest := by
  cases h with
  | directory name entries => rfl
  | @otherwiseNamed name bytes h =>
    have hname : named? tag name = none := by
      refine Option.eq_none_iff_forall_ne_some.2 fun ⟨role, isCulprit⟩ hread => ?_
      obtain ⟨raw, hraw, hstem, -⟩ := named?_eq_some_iff.1 hread
      exact h raw isCulprit hraw hstem
    rw [readTemplates, hname]
  | @blank name text h =>
    rw [readTemplates]
    cases named? tag name with
    | none => rfl
    | some read =>
      obtain ⟨role, isCulprit⟩ := read
      simp only [readText_encode, reading, Except.mapError, ok_bind, Template.mk?, h, if_true]
      exact bind_pure _

/-- An entry that is passed over may stand anywhere. -/
theorem readTemplates_append_cons {e : List UInt8 × Entry} (h : PassedOver tag e)
    (before after : Listing) :
    readTemplates place tag (before ++ e :: after) = readTemplates place tag (before ++ after) := by
  induction before with
  | nil => exact readTemplates_passedOver h after
  | cons f before ih =>
    obtain ⟨name, - | bytes⟩ := f
    all_goals simp only [List.cons_append, readTemplates, ih]

/-- The template that an entry makes, if it makes one. -/
def template? (tag : String) : List UInt8 × Entry → Option Template
  | (_, .directory _) => none
  | (name, .file bytes) => do
    let (role, isCulprit) ← named? tag name
    let text ← decode? bytes
    (Template.mk? role isCulprit (String.ofList text)).toOption

/-- Where all files can be read, the templates are those that the entries make. -/
theorem readTemplates_eq_ok {entries : Listing} {templates : List Template}
    (h : readTemplates place tag entries = .ok templates) :
    templates = entries.filterMap (template? tag) := by
  induction entries generalizing templates with
  | nil => exact (Except.ok.inj h).symm
  | cons e rest ih =>
    obtain ⟨name, bytes | inside⟩ := e
    · rw [readTemplates] at h
      cases hname : named? tag name with
      | none =>
        rw [hname] at h
        rw [ih h, List.filterMap_cons_none (by rw [template?, hname]; rfl)]
      | some read =>
        obtain ⟨role, isCulprit⟩ := read
        rw [hname] at h
        obtain ⟨text, htext, h⟩ := bind_eq_ok.1 h
        obtain ⟨others, hothers, h⟩ := bind_eq_ok.1 h
        -- a template that cannot be made is left out, by the reader and by the filter
        have htemplate : template? tag (name, .file bytes) =
            (Template.mk? role isCulprit text).toOption := by
          rw [template?, hname, readText_eq_ok htext]
          simp
        rw [List.filterMap_cons, htemplate, ← ih hothers]
        cases hmade : Template.mk? role isCulprit text with
        | ok t =>
          rw [hmade] at h
          exact (Except.ok.inj h).symm
        | error e =>
          rw [hmade] at h
          exact (Except.ok.inj h).symm
    · exact ih h

theorem template?_of_makes {role text : String} {isCulprit : Bool} {e : List UInt8 × Entry}
    (h : Makes tag role isCulprit text e) : template? tag e = some ⟨role, isCulprit, text⟩ := by
  obtain ⟨⟨raw, hraw, hstem, rfl⟩, htold, hfile⟩ := h
  obtain ⟨name, entry⟩ := e
  obtain rfl : entry = .file (encode text) := hfile
  rw [template?, named?_eq_some_iff.2 ⟨raw, hraw, hstem, rfl⟩, Text.Utf8.decode?_encode]
  simp [Template.mk?, htold, normalizeRole_normalizeRole, Except.toOption]

/-! ## What comes of a profile -/

section
variable {s : PromptStore} {p : Profile}

theorem resolve_eq_noTemplate_iff :
    s.resolve p = .error (.noTemplate p) ↔ ∀ t ∈ s.templates, t.isFor p = false := by
  have hnone := List.filter_eq_nil_iff (p := fun t : Template => t.isFor p) (l := s.templates)
  simp only [Bool.not_eq_true] at hnone
  rw [← hnone, resolve]
  split <;> simp [*]

theorem resolve_eq_manyTemplates_iff :
    s.resolve p = .error (.manyTemplates p) ↔ 2 ≤ s.templates.countP fun t => t.isFor p := by
  rw [List.countP_eq_length_filter, resolve]
  split <;> simp [*]

theorem resolve_eq_text_iff {text : String} :
    s.resolve p = .ok text ↔ ∃ before t after, s.templates = before ++ t :: after ∧
      t.isFor p = true ∧ (∀ u ∈ before ++ after, u.isFor p = false) ∧ text = s.fill p t := by
  constructor
  · intro h
    rw [resolve] at h
    split at h
    · cases h
    · next t ht =>
      obtain ⟨before, after, hsplit, hbefore, hfor, hafter⟩ := List.filter_eq_cons_iff.1 ht
      rw [List.filter_eq_nil_iff] at hafter
      refine ⟨before, t, after, hsplit, hfor, fun u hu => ?_, (Except.ok.inj h).symm⟩
      obtain hu | hu := List.mem_append.1 hu
      · exact Bool.eq_false_iff.2 (hbefore u hu)
      · exact Bool.eq_false_iff.2 (hafter u hu)
    · cases h
  · rintro ⟨before, t, after, hsplit, hfor, hothers, rfl⟩
    refine resolve_of_filter ?_
    have hnone : ∀ part, part ⊆ before ++ after → part.filter (fun u => u.isFor p) = [] :=
      fun part hpart => List.filter_eq_nil_iff.2 fun u hu =>
        Bool.eq_false_iff.1 (hothers u (hpart hu))
    rw [hsplit, List.filter_append, List.filter_cons, if_pos hfor,
      hnone before (List.subset_append_left ..), hnone after (List.subset_append_right ..)]
    rfl

/-- The order of the templates makes no difference. -/
theorem resolve_eq_of_perm {templates : List Template} (h : templates.Perm s.templates) :
    { s with templates }.resolve p = s.resolve p := by
  have hperm := h.filter fun t => t.isFor p
  cases hs : s.templates.filter fun t => t.isFor p with
  | nil =>
    rw [hs] at hperm
    rw [resolve, resolve, hs, hperm.eq_nil]
  | cons t rest =>
    cases rest with
    | nil =>
      rw [hs, List.perm_singleton] at hperm
      rw [resolve_of_filter hs, resolve_of_filter hperm]
      rfl
    | cons u rest =>
      have hcount : 2 ≤ s.templates.countP fun t => t.isFor p := by
        rw [List.countP_eq_length_filter, hs]
        simp
      rw [resolve_eq_manyTemplates_iff.2 hcount]
      exact resolve_eq_manyTemplates_iff.2 (h.countP_eq _ ▸ hcount)

end

theorem exists_perm_cons {α : Type} {a : α} {l : List α} (h : a ∈ l) :
    ∃ rest, l.Perm (a :: rest) := by
  obtain ⟨before, after, rfl⟩ := List.append_of_mem h
  exact ⟨before ++ after, List.perm_middle⟩

/-- Two files for one role and kind leave the suspects who have them without instructions. -/
theorem resolve_of_two_files {entries : Listing} {s : PromptStore} {p : Profile}
    {a b : List UInt8 × Entry} {text text' : String} (h : loadListing place tag entries = .ok s)
    (ha : a ∈ entries) (hb : b ∈ entries) (hne : a.1 ≠ b.1)
    (hmakes : Makes tag p.role p.isCulprit text a)
    (hmakes' : Makes tag p.role p.isCulprit text' b) :
    s.resolve p = .error (.manyTemplates p) := by
  obtain ⟨templates, hread, h⟩ := bind_eq_ok.1 h
  obtain ⟨townMemory, -, h⟩ := bind_eq_ok.1 h
  obtain ⟨generalRules, -, h⟩ := bind_eq_ok.1 h
  obtain rfl : s = ⟨templates, townMemory, generalRules⟩ := (Except.ok.inj h).symm
  obtain rfl := readTemplates_eq_ok hread
  obtain ⟨rest, hrest⟩ : ∃ rest, entries.sorted.Perm (a :: b :: rest) := by
    obtain ⟨others, hothers⟩ := exists_perm_cons ((Listing.sorted_perm entries).symm.subset ha)
    have hb' : b ∈ others := by
      have hb' := hothers.subset ((Listing.sorted_perm entries).symm.subset hb)
      exact (List.mem_cons.1 hb').resolve_left fun heq => hne (heq ▸ rfl)
    obtain ⟨rest, hrest⟩ := exists_perm_cons hb'
    exact ⟨rest, hothers.trans (hrest.cons a)⟩
  rw [resolve_eq_manyTemplates_iff]
  have hcount := (hrest.filterMap (template? tag)).countP_eq fun t => t.isFor p
  rw [hcount, List.filterMap_cons_some (template?_of_makes hmakes),
    List.filterMap_cons_some (template?_of_makes hmakes')]
  simp [Template.isFor]

/-- **A store is loaded from the files that count.** The order in which the directory is listed makes no
difference to it or to the error that is told instead. Neither does a new entry that is passed over,
a directory, a file with another name, of text or not, or one without a text, unless it stands under
the name of a shared file. What comes of a profile hangs on how many of the templates are for it, in
whatever order they stand: if there are none or more than one, that is the error, so two files
for one role, however they spell it, leave the role without instructions. -/
theorem loaded_from_what_counts (place tag : String) :
    (∀ entries entries' : Listing, entries.Distinct → entries'.Perm entries →
      loadListing place tag entries' = loadListing place tag entries) ∧
    (∀ (before after : Listing) name e, Listing.Distinct (before ++ (name, e) :: after) →
      name ≠ encode townMemoryFile → name ≠ encode generalRulesFile → PassedOver tag (name, e) →
      loadListing place tag (before ++ (name, e) :: after) =
        loadListing place tag (before ++ after)) ∧
    (∀ (s : PromptStore) p,
      (∀ templates : List Template, templates.Perm s.templates →
        { s with templates }.resolve p = s.resolve p) ∧
      (s.resolve p = .error (.noTemplate p) ↔ ∀ t ∈ s.templates, t.isFor p = false) ∧
      (s.resolve p = .error (.manyTemplates p) ↔ 2 ≤ s.templates.countP fun t => t.isFor p) ∧
      ∀ text, s.resolve p = .ok text ↔ ∃ before t after, s.templates = before ++ t :: after ∧
        t.isFor p = true ∧ (∀ u ∈ before ++ after, u.isFor p = false) ∧ text = s.fill p t) ∧
    ∀ (entries : Listing) s a b p text text', loadListing place tag entries = .ok s →
      a ∈ entries → b ∈ entries → a.1 ≠ b.1 → Makes tag p.role p.isCulprit text a →
      Makes tag p.role p.isCulprit text' b → s.resolve p = .error (.manyTemplates p) := by
  refine ⟨fun entries entries' hdistinct hperm => ?_,
    fun before after name e hdistinct hmemory hrules hpassed => ?_,
    fun s p => ⟨fun templates => resolve_eq_of_perm, resolve_eq_noTemplate_iff,
      resolve_eq_manyTemplates_iff, fun text => resolve_eq_text_iff⟩,
    fun entries s a b p text text' => resolve_of_two_files⟩
  · -- what is read in order is the sorted listing, which a permutation shares
    rw [loadListing, loadListing, readShared, readShared, readShared, readShared,
      Listing.sorted_eq_of_perm hdistinct hperm, Listing.find_eq_of_perm hdistinct hperm,
      Listing.find_eq_of_perm hdistinct hperm]
  · -- an entry that is passed over stands somewhere in the sorted listing and adds nothing
    obtain ⟨lower, upper, hsorted, hsorted'⟩ := Listing.sorted_append_cons hdistinct
    rw [loadListing, loadListing, readShared, readShared, readShared, readShared, hsorted, hsorted',
      readTemplates_append_cons hpassed, Listing.find_append_cons e hmemory,
      Listing.find_append_cons e hrules]

/-- Two spellings of one role, in two listings of one directory, with what is passed over among them. -/
theorem loaded_from_two_spellings :
    let farmers : Listing := [(encode "prompt_Farmer_regular.txt", .file (encode "Sow.")),
      (encode "prompt_farmer_regular.md", .file (encode "Reap."))]
    let shared : Listing := [(encode "general_rules.txt", .file (encode "Be kind.")),
      (encode "town_collective_memory.txt", .file (encode "It rained."))]
    let broken : List UInt8 := encode "prompt_" ++ 0xFF :: encode "_regular.txt"
    (∀ e ∈ [Entry.directory [], .file [0xFF]],
      loadListing "prompts" "prompt" (shared ++ (broken, e) :: farmers) =
        loadListing "prompts" "prompt" (farmers ++ shared)) ∧
    ∃ s, loadListing "prompts" "prompt" (farmers ++ shared) = .ok s ∧
      ({ s with templates := s.templates.reverse }.resolve (Profile.new "Hans" " FARMER" "") =
        .error (.manyTemplates (Profile.new "Hans" " FARMER" ""))) := by
  intro farmers shared broken
  have hdistinct : (farmers ++ shared).Distinct := by
    unfold Listing.Distinct
    decide +kernel
  refine ⟨fun e he => ?_, ?_⟩
  · -- a directory, or a file whose name is not text, does not count
    have hpassed : PassedOver "prompt" (broken, e) := by
      obtain rfl | rfl : e = .directory [] ∨ e = .file [0xFF] := by simpa using he
      · exact .directory broken []
      · refine .otherwiseNamed [0xFF] fun role isCulprit _ hstem => ?_
        have hnone : decode? (fileStem broken) = none := by decide +kernel
        rw [hstem, Text.Utf8.decode?_encode] at hnone
        cases hnone
    have hdistinct' : Listing.Distinct (shared ++ (broken, e) :: farmers) := by
      simp only [Listing.Distinct, shared, farmers, List.cons_append, List.nil_append, List.map_cons,
        List.map_nil]
      decide +kernel
    rw [(loaded_from_what_counts "prompts" "prompt").2.1 shared farmers broken e hdistinct'
      (by decide +kernel) (by decide +kernel) hpassed]
    exact (loaded_from_what_counts "prompts" "prompt").1 _ _ hdistinct List.perm_append_comm
  · -- both farmers' files are read, so there is one template too many
    obtain ⟨s, hs⟩ : ∃ s, loadListing "prompts" "prompt" (farmers ++ shared) = .ok s := by
      have hloads : (loadListing "prompts" "prompt" (farmers ++ shared)).toOption.isSome = true := by
        decide +kernel
      cases hs : loadListing "prompts" "prompt" (farmers ++ shared) with
      | ok s => exact ⟨s, rfl⟩
      | error e =>
        rw [hs] at hloads
        cases hloads
    refine ⟨s, hs, ?_⟩
    rw [((loaded_from_what_counts "prompts" "prompt").2.2.1 s _).1 _ (List.reverse_perm _)]
    refine (loaded_from_what_counts "prompts" "prompt").2.2.2 _ _
      (encode "prompt_Farmer_regular.txt", .file (encode "Sow."))
      (encode "prompt_farmer_regular.md", .file (encode "Reap.")) _ _ _ hs (by simp [farmers])
      (by simp [farmers]) (by decide +kernel) ⟨⟨"Farmer", ?_⟩, ?_, rfl⟩ ⟨⟨"farmer", ?_⟩, ?_, rfl⟩
    all_goals decide +kernel

end PromptStore

end Inquest
