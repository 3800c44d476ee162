import Mathlib.Data.List.Nodup
import ScriptHost.Files.Edit

/-!
# Proper trees

A tree is **proper** if in every directory each entry has a name that an entry can have,
and no two have the same.  Every tree that is made by edits is proper: what a path's text
gives a name to is a piece between two separators, and the edits refuse the pieces that
are no names.

* `Node.Proper.alter`, `Node.Proper.makeDirs` — the parts an edit is made of;
* `Node.isEntryName_of_spot` — the name of a file that is opened for writing;
* `Files.Proper.edit` — the edits themselves.
-/

namespace ScriptHost

/-! ## Well-formed trees -/

/-- A name an entry of a directory can have. -/
structure IsEntryName (name : String) : Prop where
  ne_empty : name ≠ ""
  ne_here : name ≠ "."
  ne_parent : name ≠ ".."
  whole : '/' ∉ name.toList

instance (name : String) : Decidable (IsEntryName name) :=
  decidable_of_iff (name ≠ "" ∧ name ≠ "." ∧ name ≠ ".." ∧ '/' ∉ name.toList)
    ⟨fun ⟨h₁, h₂, h₃, h₄⟩ => ⟨h₁, h₂, h₃, h₄⟩, fun h => ⟨h.1, h.2, h.3, h.4⟩⟩

mutual

/-- In every directory each entry has a possible name, and no two have the same. -/
def Node.Proper : Node → Prop
  | .dir _ entries _ => ProperEntries entries
  | .file .. | .link .. => True

/-- These can be the entries of a directory. -/
def ProperEntries : List Node → Prop
  | [] => True
  | x :: rest => IsEntryName x.name ∧ (∀ y ∈ rest, y.name ≠ x.name) ∧ x.Proper ∧ ProperEntries rest

end

/-- A node that can be an entry of a directory. -/
structure Node.Enterable (x : Node) : Prop where
  name : IsEntryName x.name
  proper : x.Proper

/-- Entries are proper when each of them is and no two have the same name. -/
theorem properEntries_iff {entries : List Node} :
    ProperEntries entries ↔
      (∀ x ∈ entries, x.Enterable) ∧ (entries.map Node.name).Nodup := by
  induction entries with
  | nil => simp [ProperEntries]
  | cons x rest ih =>
    rw [ProperEntries, ih, List.forall_mem_cons, List.map_cons, List.nodup_cons, List.mem_map]
    constructor
    · rintro ⟨hname, hother, hx, hrest, hnodup⟩
      refine ⟨⟨⟨hname, hx⟩, hrest⟩, ?_, hnodup⟩
      rintro ⟨y, hy, hsame⟩
      exact hother y hy hsame
    · rintro ⟨⟨⟨hname, hx⟩, hrest⟩, hother, hnodup⟩
      exact ⟨hname, fun y hy hsame => hother ⟨y, hy, hsame⟩, hx, hrest, hnodup⟩

namespace ProperEntries

/-- Every one of some proper entries is one itself. -/
theorem enterable {entries : List Node} (h : ProperEntries entries) {x : Node}
    (hx : x ∈ entries) : x.Enterable :=
  (properEntries_iff.mp h).1 x hx

/-- An entry takes the place of the one with its name, or is one more. -/
theorem insertEntry {entries : List Node} (h : ProperEntries entries) {x : Node}
    (hx : x.Enterable) : ProperEntries (Node.insertEntry entries x) := by
  obtain ⟨hall, hnodup⟩ := properEntries_iff.mp h
  rw [properEntries_iff]
  unfold Node.insertEntry
  split
  · have hnames : (entries.map fun e => if e.name = x.name then x else e).map Node.name
        = entries.map Node.name := by
      rw [List.map_map]
      refine List.map_congr_left fun e _ => ?_
      simp only [Function.comp_apply]
      split
      · next hsame => exact hsame.symm
      · rfl
    refine ⟨fun y hy => ?_, hnames ▸ hnodup⟩
    obtain ⟨e, he, rfl⟩ := List.mem_map.mp hy
    split
    · exact hx
    · exact hall e he
  · next hnew =>
    refine ⟨fun y hy => ?_, ?_⟩
    · rcases List.mem_append.mp hy with hy | hy
      · exact hall y hy
      · obtain rfl := List.mem_singleton.mp hy
        exact hx
    · rw [List.map_append, List.map_singleton]
      refine hnodup.append (List.nodup_singleton _) ?_
      rintro _ hold hname
      obtain rfl := List.mem_singleton.mp hname
      obtain ⟨e, he, hsame⟩ := List.mem_map.mp hold
      exact hnew (List.any_eq_true.mpr ⟨e, he, by simpa using hsame⟩)

/-- Some of them are proper as well. -/
theorem filter {entries : List Node} (h : ProperEntries entries) (test : Node → Bool) :
    ProperEntries (entries.filter test) := by
  obtain ⟨hall, hnodup⟩ := properEntries_iff.mp h
  exact properEntries_iff.mpr ⟨fun x hx => hall x (List.mem_of_mem_filter hx),
    hnodup.sublist (List.filter_sublist.map Node.name)⟩

end ProperEntries

namespace Node

/-- Whatever is altered inside a directory, it keeps its name. -/
theorem name_alter (now : Int) (name : String) (f : Option Node → Option Node)
    (place : List String) (x : Node) : (alter now name f place x).name = x.name := by
  cases place <;> cases x <;> simp only [alter]
  all_goals first | rfl | (split <;> rfl)

/-- Whatever is updated inside a directory, it keeps its name. -/
theorem name_updateAt {f : Node → Node} (hf : ∀ x, (f x).name = x.name) (place : List String)
    (x : Node) : (updateAt f place x).name = x.name := by
  cases place <;> cases x <;> simp only [updateAt, hf]
  all_goals first | rfl | (split <;> rfl)

/-- **Changing an entry** of some directory, to what can be one. -/
theorem Proper.alter {x : Node} (h : x.Proper) (now : Int) (name : String)
    {f : Option Node → Option Node} (hf : ∀ old y, (∀ z ∈ old, z.Enterable) → y ∈ f old →
      y.Enterable) (place : List String) : (x.alter now name f place).Proper := by
  induction place generalizing x with
  | nil =>
    cases x with
    | file | link => exact h
    | dir n entries mtime =>
      have hentries : ProperEntries entries := h
      unfold Node.alter
      split
      · next y hy =>
        refine hentries.insertEntry (hf _ y (fun z hz => ?_) hy)
        exact hentries.enterable (List.mem_of_find?_eq_some hz)
      · exact hentries.filter _
  | cons next rest ih =>
    cases x with
    | file | link => exact h
    | dir n entries mtime =>
      have hentries : ProperEntries entries := h
      unfold Node.alter
      split
      · next y hy =>
        have hy := hentries.enterable (List.mem_of_find?_eq_some hy)
        exact hentries.insertEntry ⟨name_alter now name f rest y ▸ hy.name, ih hy.proper⟩
      · exact hentries

/-- **Changing a node** that keeps its name. -/
theorem Proper.updateAt {x : Node} (h : x.Proper) {f : Node → Node}
    (hname : ∀ x, (f x).name = x.name) (hf : ∀ x : Node, x.Proper → (f x).Proper)
    (place : List String) : (x.updateAt f place).Proper := by
  induction place generalizing x with
  | nil => exact hf x h
  | cons next rest ih =>
    cases x with
    | file | link => exact h
    | dir n entries mtime =>
      have hentries : ProperEntries entries := h
      unfold Node.updateAt
      split
      · next y hy =>
        have hy := hentries.enterable (List.mem_of_find?_eq_some hy)
        exact hentries.insertEntry ⟨name_updateAt hname rest y ▸ hy.name, ih hy.proper⟩
      · exact hentries

/-- What stands in a proper tree is proper. -/
theorem Proper.get? {x y : Node} {place : List String} (h : x.Proper)
    (hy : x.get? place = some y) : y.Proper := by
  induction place generalizing x with
  | nil =>
    obtain rfl := Option.some.inj hy
    exact h
  | cons name rest ih =>
    obtain ⟨z, hz, hy⟩ := Option.bind_eq_some_iff.mp hy
    refine ih ?_ hy
    cases x with
    | dir _ entries _ => exact (ProperEntries.enterable h (List.mem_of_find?_eq_some hz)).proper
    | file | link => simp [Node.child?, Node.entries] at hz

end Node

/-! ## Names from texts -/

/-- There is no separator in a piece. -/
theorem Path.not_mem_pieces {cs piece : List Char} (h : piece ∈ pieces cs) : '/' ∉ piece := by
  induction cs generalizing piece with
  | nil =>
    obtain rfl := List.mem_singleton.mp h
    exact List.not_mem_nil
  | cons c cs ih =>
    unfold pieces at h
    split at h
    · rcases List.mem_cons.mp h with rfl | h
      · exact List.not_mem_nil
      · exact ih h
    · next hc =>
      split at h
      · obtain rfl := List.mem_singleton.mp h
        simpa using Ne.symm hc
      · next p ps hps =>
        have hp := ih (hps ▸ List.mem_cons_self)
        rcases List.mem_cons.mp h with rfl | h
        · simpa [Ne.symm hc] using hp
        · exact ih (hps ▸ List.mem_cons_of_mem p h)

/-- No segment of a path has a separator in it. -/
theorem Node.whole_of_mem_segments {text s : String} (h : s ∈ segments text) : '/' ∉ s.toList := by
  obtain ⟨piece, hpiece, rfl⟩ := List.mem_map.mp h
  simpa using Path.not_mem_pieces hpiece

/-- A piece that names something can name an entry, unless it leads to the parent. -/
theorem Node.isEntryName_of_mem_names {text s : String} (h : s ∈ names text) (hs : s ≠ "..") :
    IsEntryName s := by
  obtain ⟨hsegment, hnames⟩ := List.mem_filter.mp h
  obtain ⟨hempty, hhere⟩ : s ≠ "" ∧ s ≠ "." := by simpa using hnames
  exact ⟨hempty, hhere, hs, whole_of_mem_segments hsegment⟩

/-! ## Edits -/

namespace Node.Proper

variable {root root' : Node} {now : Int} {place segs : List String}

/-- A tree stays proper when a directory is made in it. -/
theorem makeDir (h : root.Proper) (hsegs : ∀ s ∈ segs, s ≠ ".." → IsEntryName s)
    (hmade : root.makeDir now place segs = .ok root') : root'.Proper := by
  unfold Node.makeDir at hmade
  split at hmade
  · cases hmade
  · next name hname =>
    have hmem := List.mem_of_getLast? hname
    cases hparent : root.resolve true place segs.dropLast with
    | error e => simp [hparent, Except.bind] at hmade
    | ok parent =>
      simp only [hparent, Except.bind] at hmade
      split at hmade
      · split at hmade
        · cases hmade
        · split at hmade
          · cases hmade
          · next hnew =>
            split at hmade
            · cases hmade
            · obtain rfl := Except.ok.inj hmade
              obtain ⟨hparent, -⟩ : ¬name = ".." ∧ _ := by simpa using hnew
              refine h.alter now name (fun old y _ hy => ?_) parent
              obtain rfl := Option.some.inj hy
              exact ⟨hsegs name hmem hparent, trivial⟩
      · cases hmade

/-- A tree stays proper when something is made in it unless it is there already. -/
theorem orPresent (h : root.Proper) {made : Except FileFault Node}
    (hmade : ∀ x, made = .ok x → x.Proper) (hpresent : root.orPresent place segs made = .ok root') :
    root'.Proper := by
  unfold Node.orPresent at hpresent
  split at hpresent
  · next x =>
    obtain rfl := Except.ok.inj hpresent
    exact hmade _ rfl
  · split at hpresent
    · obtain rfl := Except.ok.inj hpresent
      exact h
    · cases hpresent

/-- **Making a directory**, and those on the way to it. -/
theorem makeDirs (h : root.Proper) (hsegs : ∀ s ∈ segs, s ≠ ".." → IsEntryName s)
    (hmade : root.makeDirs now place segs = .ok root') : root'.Proper := by
  induction hn : segs.length using Nat.strongRecOn generalizing root' segs with
  | ind n ih =>
    subst hn
    cases segs with
    | nil =>
      rw [Node.makeDirs] at hmade
      obtain rfl := Except.ok.inj hmade
      exact h
    | cons seg rest =>
      rw [Node.makeDirs] at hmade
      split at hmade
      · cases hfirst : root.makeDirs now place (seg :: rest).dropLast with
        | error e => simp [hfirst, Except.bind] at hmade
        | ok x =>
          have hx : x.Proper :=
            ih _ (by simp) (fun s hs => hsegs s ((List.dropLast_sublist _).subset hs)) hfirst rfl
          simp only [hfirst, Except.bind] at hmade
          exact hx.orPresent (fun y hy => hx.makeDir hsegs hy) hmade
      · exact h.orPresent (fun y hy => h.makeDir hsegs hy) hmade

end Node.Proper

/-- **Where a file is opened for writing** it has a name, whatever links lead there. -/
theorem Node.isEntryName_of_spot {root : Node} {links : Nat} {place segs parent : List String}
    {name : String} (hsegs : ∀ s ∈ segs, '/' ∉ s.toList)
    (h : root.spot links place segs = .ok (parent, name)) : IsEntryName name := by
  induction links using Nat.strongRecOn generalizing place segs with
  | ind links ih =>
    rw [Node.spot] at h
    generalize hcore : (segs.reverse.dropWhile fun s => s.isEmpty).reverse = core at h
    split at h
    · cases h
    · next last hlast =>
      have hname : last ≠ "" ∧ '/' ∉ last.toList := by
        rw [← hcore, List.getLast?_reverse] at hlast
        refine ⟨fun hempty => ?_, hsegs last ?_⟩
        · have hkept := List.head?_dropWhile_not (fun s : String => s.isEmpty) segs.reverse
          rw [hlast] at hkept
          simp [hempty] at hkept
        · exact List.mem_reverse.mp ((List.dropWhile_sublist _).subset (List.mem_of_head? hlast))
      split at h
      · cases h
      · next dest left hwalk =>
        split at h
        · cases h
        · split at h
          · cases h
          · split at h
            · cases h
            · next hplain =>
              have hlinks : left ≤ links := Node.walk_links_le _ _ _ _ _ _ _ hwalk
              split at h
              · cases h
              · split at h
                · cases h
                · next target _ =>
                  split at h
                  · cases h
                  · exact ih _ (by omega) (fun s hs => whole_of_mem_segments hs) h
                · obtain ⟨-, rfl⟩ := Prod.mk.inj (Except.ok.inj h)
                  simp only [Bool.or_eq_true, decide_eq_true_eq, not_or] at hplain
                  exact ⟨hname.1, hplain.1.1, hplain.1.2, hname.2⟩

namespace Files

/-- A tree with a proper root. -/
def Proper (t : Files) : Prop :=
  t.root.Proper

/-- The empty tree is proper. -/
theorem proper_empty : empty.Proper :=
  ⟨⟨by decide, by decide, by decide, by decide⟩, by simp, trivial, trivial⟩

namespace Proper

variable {t t' : Files} (h : t.Proper)

include h

/-- A tree stays proper when the directories of a path are made. -/
theorem makeDirs {p : Path} (hmade : t.makeDirs p = .ok t') : t'.Proper := by
  unfold Files.makeDirs at hmade
  split at hmade
  · cases hmade
  · cases hroot : t.root.makeDirs t.clock (t.start p) (steps p) with
    | error e => simp [hroot, Except.map] at hmade
    | ok root =>
      rw [hroot] at hmade
      obtain rfl := Except.ok.inj hmade
      exact Node.Proper.makeDirs h (fun s hs => Node.isEntryName_of_mem_names hs) hroot

/-- A tree stays proper when the directory of a path is made. -/
theorem withParent {p : Path} (hmade : t.withParent p = .ok t') : t'.Proper := by
  unfold Files.withParent at hmade
  cases hroot : t.root.makeDirs t.clock (t.start p) (steps p).dropLast with
  | error e => simp [hroot, Except.map] at hmade
  | ok root =>
    rw [hroot] at hmade
    obtain rfl := Except.ok.inj hmade
    exact Node.Proper.makeDirs h
      (fun s hs => Node.isEntryName_of_mem_names ((List.dropLast_sublist _).subset hs)) hroot

/-- A tree stays proper when a file is given other contents. -/
theorem refill (parent : List String) {name : String} (hname : IsEntryName name)
    (f : ByteArray → ByteArray) (mtime : Int) : (t.refill parent name f mtime).Proper := by
  unfold Files.refill
  split
  · refine Node.Proper.updateAt h (fun x => ?_) (fun x hx => ?_) _
    · cases x <;> rfl
    · cases x <;> exact hx
  · refine Node.Proper.alter h _ _ (fun old y _ hy => ?_) _
    obtain rfl := Option.some.inj hy
    exact ⟨hname, trivial⟩

/-- Where something is to be made there is a proper tree, and a possible name. -/
theorem site {p : Path} {parent : List String} {name : String}
    (hsite : t.site p = some (t', parent, name)) : t'.Proper ∧ IsEntryName name := by
  unfold Files.site at hsite
  split at hsite
  · cases hsite
  · cases hsite
  · next last hparent hlast =>
    split at hsite
    · cases hsite
    · obtain ⟨t₁, hmade, hsite⟩ := Option.bind_eq_some_iff.mp hsite
      obtain ⟨place, -, hplace⟩ := Option.map_eq_some_iff.mp hsite
      obtain ⟨rfl, rfl, rfl⟩ : t₁ = t' ∧ place = parent ∧ last = name := by simpa using hplace
      refine ⟨h.withParent (p := p) ?_, Node.isEntryName_of_mem_names
        (List.mem_of_getLast? hlast) (hparent)⟩
      cases hw : t.withParent p with
      | error e => simp [hw, Except.toOption] at hmade
      | ok t₂ => simpa [hw, Except.toOption] using hmade

/-- A tree stays proper when something is taken away. -/
theorem takeAway (p : Path) (ok : Node → Bool) : (t.takeAway p ok).Proper := by
  unfold Files.takeAway
  split
  · exact h
  · split
    · split
      · exact Node.Proper.alter h _ _ (fun _ y _ hy => absurd hy (Option.not_mem_none y)) _
      · exact h
    · exact h

/-- A tree stays proper when a file is written. -/
theorem write (p : Path) (contents : ByteArray) (mtime : Int) :
    (t.write p contents mtime).Proper := by
  unfold Files.write
  split
  · exact h
  · next t' hparent =>
    have ht' := h.withParent hparent
    split
    · exact ht'
    · next parent name hspot =>
      unfold Files.spot at hspot
      split at hspot
      · cases hspot
      · split at hspot
        · cases hspot
        · exact ht'.refill parent
            (Node.isEntryName_of_spot (fun s hs => Node.whole_of_mem_segments hs) hspot) _ _

/-- A tree stays proper when a link is made. -/
theorem link (p : Path) (target : String) : (t.link p target).Proper := by
  unfold Files.link
  split
  · exact h
  · split
    · exact h
    · next t' parent name hsite =>
      obtain ⟨ht', hname⟩ := h.site hsite
      refine Node.Proper.alter ht' _ _ (fun old y hold hy => ?_) _
      cases old with
      | some z => exact hold y hy
      | none =>
        obtain rfl := Option.some.inj hy
        exact ⟨hname, trivial⟩

/-- A tree stays proper when something gets another path. -/
theorem rename (p dest : Path) : (t.rename p dest).Proper := by
  unfold Files.rename
  split
  · exact h
  · next place _ =>
    split
    · next x old t' parent name hx _ hsite =>
      obtain ⟨ht', hname⟩ := h.site hsite
      dsimp only
      split
      · exact ht'
      · have hx : x.Proper := Node.Proper.get? h hx
        have hgone := Node.Proper.alter ht' t'.clock old
          (fun _ y _ hy => absurd hy (Option.not_mem_none y)) (f := fun _ => none) place.dropLast
        refine hgone.alter _ _ (fun _ y _ hy => ?_) _
        obtain rfl := Option.some.inj hy
        cases x with
        | file | link => exact ⟨hname, trivial⟩
        | dir => exact ⟨hname, hx⟩
    · exact h

/-- **Edits leave a tree proper.** -/
theorem edit (e : FileEdit) : (t.edit e).Proper := by
  cases e with
  | write p contents mtime => exact h.write p contents mtime
  | touch p mtime =>
    unfold Files.edit
    dsimp only
    split
    · refine Node.Proper.updateAt h (fun x => ?_) (fun x hx => ?_) _
      · cases x <;> rfl
      · cases x <;> exact hx
    · exact h
  | makeDir p =>
    unfold Files.edit
    dsimp only
    split
    · next t' hmade =>
      have ht' := h.makeDirs hmade
      exact ht'
    · exact h
  | remove p => exact h.takeAway p _
  | removeDir p => exact h.takeAway p _
  | rename p dest => exact h.rename p dest
  | link p target => exact h.link p target

end Proper

end Files

end ScriptHost
