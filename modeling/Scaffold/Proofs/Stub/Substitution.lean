import Mathlib.Data.List.Nodup
import Scaffold.Proofs.Stub.Filling

/-!
# Filling as substitution

A template is filled name by name, and each name is looked for in all of the text, in what was put in
before as well. Still nothing is found but the holes of the template, as long as no text brings a doubled
brace or begins with a brace of its own: a mark begins with two braces, and two braces come together only
where a hole begins.

* `Bare`: texts that bring no mark, wherever they are put.
* `Template.fill`: all holes of a template filled at once.
* `replaceAll_text`: looking for one name fills the holes of that name.
* `renderChars_text`, `render_text`: filling name by name fills all holes at once.
* `bare_fill`: a template of which every hole has a bare text is filled to a bare text.
* `render_simultaneous`: filling name by name is filling all at once, in whatever order.
-/
namespace Scaffold.Stub

open Text (startsWith startsWith_iff Outside)

variable {q a b cs rest : List Char} {k name value : String} {t : Template} {f : Filling}

/-! ## Texts without marks -/

/-- How a mark begins. -/
def opening : List Char := ['\x7b', '\x7b']

/-- Whether a character is the brace that opens. -/
def isOpen (c : Char) : Bool := c == '\x7b'

/-- A text that brings no mark: it has no doubled brace, and none can come about in front of it. -/
structure Bare (cs : List Char) : Prop where
  inside : ¬opening <:+: cs
  front : Outside isOpen cs

instance (cs : List Char) : Decidable (Bare cs) :=
  decidable_of_iff (¬opening <:+: cs ∧ Outside isOpen cs) ⟨fun h => ⟨h.1, h.2⟩, fun h => ⟨h.inside, h.front⟩⟩

/-- A name that has no brace. -/
def Braceless (name : String) : Prop := '\x7b' ∉ name.toList ∧ '\x7d' ∉ name.toList

instance (name : String) : Decidable (Braceless name) :=
  inferInstanceAs (Decidable (_ ∧ _))

theorem bare_nil : Bare [] := by decide

theorem opening_isInfix_cons {c : Char} : opening <:+: c :: cs ↔
    (c = '\x7b' ∧ ∃ rest, cs = '\x7b' :: rest) ∨ opening <:+: cs := by
  rw [List.infix_cons_iff]
  refine or_congr_left ⟨?_, ?_⟩
  · rintro ⟨rest, heq⟩
    cases heq
    exact ⟨rfl, rest, rfl⟩
  · rintro ⟨rfl, rest, rfl⟩
    exact ⟨rest, rfl⟩

/-- A doubled brace in two texts is in one of them or where they meet. -/
theorem opening_isInfix_append (h : opening <:+: a ++ b) (hb : Outside isOpen b) :
    opening <:+: a ∨ opening <:+: b := by
  induction a with
  | nil => exact .inr h
  | cons c a ih =>
    rcases opening_isInfix_cons.mp h with ⟨rfl, rest, hrest⟩ | h
    · cases a with
      | nil =>
        have hfront : Outside isOpen ('\x7b' :: rest) := hrest ▸ hb
        cases hfront
      | cons d a =>
        obtain ⟨rfl, -⟩ := List.cons.inj hrest
        exact .inl ⟨[], a, rfl⟩
    · exact (ih h).imp_left fun h => h.trans (List.suffix_cons c a).isInfix

theorem Bare.append (ha : Bare a) (hb : Bare b) : Bare (a ++ b) := by
  refine ⟨fun h => ?_, ?_⟩
  · exact (opening_isInfix_append h hb.front).elim ha.inside hb.inside
  · cases a with
    | nil => exact hb.front
    | cons c a => exact ha.front

/-- No hole is marked in a text without doubled braces. -/
theorem Bare.unmarked (h : Bare a) : Unmarked a := by
  intro name hinside
  rw [toList_hole] at hinside
  exact h.inside (List.IsInfix.trans ⟨[], _, rfl⟩ hinside)

theorem bare_flatten {pieces : List (List Char)} (h : ∀ piece ∈ pieces, Bare piece) :
    Bare pieces.flatten := by
  induction pieces with
  | nil => exact bare_nil
  | cons piece rest ih =>
    obtain ⟨hpiece, hrest⟩ := List.forall_mem_cons.mp h
    exact hpiece.append (ih hrest)

/-- Lines that bring no mark bring none together. -/
theorem bare_join {lines : List String} (h : ∀ line ∈ lines, Bare line.toList) :
    Bare (Text.join "\n" lines).toList := by
  induction lines with
  | nil => exact bare_nil
  | cons line rest ih =>
    obtain ⟨hline, hrest⟩ := List.forall_mem_cons.mp h
    cases rest with
    | nil => exact hline
    | cons next rest =>
      rw [Text.join, String.toList_append, String.toList_append]
      · exact (hline.append (by decide)).append (ih hrest)
      · simp

/-- A text without the brace that opens. -/
theorem bare_of_not_mem (h : '\x7b' ∉ cs) : Bare cs := by
  refine ⟨fun hinside => h (hinside.subset List.mem_cons_self), ?_⟩
  cases cs with
  | nil => trivial
  | cons c cs =>
    have hne : c ≠ '\x7b' := by rintro rfl; exact h List.mem_cons_self
    simpa [isOpen] using hne

/-! ## Replacing one name -/

/-- What comes before the first occurrence of a pattern stays as it is. -/
theorem replaceAll_append_left (value : List Char)
    (h : ∀ tail, tail <:+ a → tail ≠ [] → ¬q <+: tail ++ b) :
    replaceAll q value (a ++ b) = a ++ replaceAll q value b := by
  induction a with
  | nil => rfl
  | cons c a ih =>
    have hhere : ¬startsWith q (c :: (a ++ b)) = true := by
      rw [startsWith_iff]
      exact h (c :: a) (List.suffix_refl _) (List.cons_ne_nil c a)
    have hlater := ih fun tail htail => h tail (htail.trans (List.suffix_cons c a))
    unfold replaceAll at hlater ⊢
    rw [List.cons_append, replaceFrom, if_neg hhere, hlater, List.cons_append]

theorem replaceFrom_length_append (q value a b : List Char) :
    replaceFrom q value a.length (a ++ b) = replaceFrom q value 0 b := by
  induction a with
  | nil => rfl
  | cons c a ih => exact ih

/-- An occurrence at the start is replaced, and what follows it on its own. -/
theorem replaceAll_append_self (hq : q ≠ []) (value b : List Char) :
    replaceAll q value (q ++ b) = value ++ replaceAll q value b := by
  cases q with
  | nil => exact absurd rfl hq
  | cons c q =>
    have hstarts : startsWith (c :: q) (c :: (q ++ b)) = true :=
      startsWith_iff.mpr (List.prefix_append (c :: q) b)
    unfold replaceAll
    rw [List.cons_append, replaceFrom, if_pos hstarts, List.length_cons, Nat.add_sub_cancel,
      replaceFrom_length_append]

/-- How the text after a literal may begin: with a whole mark, or without a brace. -/
def Ready (cs : List Char) : Prop := Outside isOpen cs ∨ ∃ rest, cs = '\x7b' :: '\x7b' :: ' ' :: rest

/-- A literal stays as it is. -/
theorem replaceAll_literal (ha : ¬opening <:+: a) (hb : Ready b) (k : String) (value : List Char) :
    replaceAll (hole k).toList value (a ++ b) = a ++ replaceAll (hole k).toList value b := by
  refine replaceAll_append_left value fun tail htail hne hstarts => ?_
  obtain ⟨after, hafter⟩ := hstarts
  rw [toList_hole] at hafter
  -- the two braces of the mark would both be in the literal, or the second one would begin what follows
  cases tail with
  | nil => exact hne rfl
  | cons c tail =>
    cases tail with
    | nil =>
      rcases hb with hb | ⟨rest, rfl⟩
      · cases hafter
        cases hb
      · simp at hafter
    | cons d tail =>
      obtain ⟨rfl, hnext⟩ := List.cons.inj hafter
      obtain ⟨rfl, -⟩ := List.cons.inj hnext
      exact ha (List.IsInfix.trans ⟨[], tail, rfl⟩ htail.isInfix)

/-- Marks of different names do not begin alike. -/
theorem not_isPrefix_hole_append (hname : Braceless name) (hk : Braceless k) (hne : name ≠ k)
    (rest : List Char) : ¬(hole k).toList <+: (hole name).toList ++ rest := by
  rintro ⟨after, hafter⟩
  simp only [toList_hole, List.cons_append, List.append_assoc, List.cons.injEq, true_and,
    List.nil_append] at hafter
  -- each name ends one space before the first brace that closes
  have hsplit : ∀ (n : String) (rest : List Char), n.toList ++ ' ' :: '\x7d' :: '\x7d' :: rest =
      (n.toList ++ [' ']) ++ '\x7d' :: '\x7d' :: rest := by simp
  have hclosed : ∀ {n : String}, Braceless n → '\x7d' ∉ n.toList ++ [' '] := by
    intro n hn
    simp [hn.2]
  rw [hsplit, hsplit, List.append_eq_append_iff] at hafter
  have hsame : k.toList ++ [' '] = name.toList ++ [' '] := by
    rcases hafter with ⟨piece, hpiece, hrest⟩ | ⟨piece, hpiece, hrest⟩
    · cases piece with
      | nil => rw [hpiece, List.append_nil]
      | cons c piece =>
        obtain ⟨rfl, -⟩ := List.cons.inj hrest
        exact absurd (by rw [hpiece]; simp) (hclosed hname)
    · cases piece with
      | nil => rw [hpiece, List.append_nil]
      | cons c piece =>
        obtain ⟨rfl, -⟩ := List.cons.inj hrest
        exact absurd (by rw [hpiece]; simp) (hclosed hk)
  exact hne (String.toList_inj.mp (List.append_cancel_right hsame)).symm

/-- A hole of another name stays as it is. -/
theorem replaceAll_other (hname : Braceless name) (hk : Braceless k) (hne : name ≠ k)
    (value rest : List Char) : replaceAll (hole k).toList value ((hole name).toList ++ rest) =
      (hole name).toList ++ replaceAll (hole k).toList value rest := by
  refine replaceAll_append_left value fun tail htail hfilled hstarts => ?_
  have hwhole := not_isPrefix_hole_append hname hk hne rest
  rw [toList_hole name] at htail hwhole
  rcases List.suffix_cons_iff.mp htail with rfl | htail
  · exact hwhole hstarts
  · -- after its first brace a mark has no second place where one begins
    obtain ⟨after, hafter⟩ := hstarts
    rw [toList_hole] at hafter
    rcases List.suffix_cons_iff.mp htail with rfl | htail
    · cases hafter
    · cases tail with
      | nil => exact hfilled rfl
      | cons c tail =>
        obtain ⟨rfl, -⟩ := List.cons.inj hafter
        have hmem := htail.subset List.mem_cons_self
        simp [hname.1] at hmem

/-! ## Templates -/

/-- A piece of a template by its characters: a literal, or the name of a hole. -/
inductive Piece where
  | literal (cs : List Char)
  | blank (name : List Char)
  deriving DecidableEq

/-- A piece that is told apart from what stands beside it. -/
def Piece.Sound : Piece → Prop
  | .literal cs => Bare cs
  | .blank name => '\x7b' ∉ name ∧ '\x7d' ∉ name

instance : (piece : Piece) → Decidable piece.Sound
  | .literal _ => inferInstanceAs (Decidable (Bare _))
  | .blank _ => inferInstanceAs (Decidable (_ ∧ _))

/-- The characters of a segment. -/
def Segment.piece : Segment → Piece
  | .lines texts => .literal (Text.join "\n" texts).toList
  | .blank name => .blank name.toList

/-- The characters of a template, piece by piece. -/
def Template.pieces (t : Template) : List Piece := t.map Segment.piece

/-- A segment that is told apart from what stands beside it. -/
def Segment.Sound (s : Segment) : Prop := s.piece.Sound

/-- A template whose pieces are told apart. -/
def Template.Sound (t : Template) : Prop := ∀ s ∈ t, s.Sound

instance (s : Segment) : Decidable s.Sound := inferInstanceAs (Decidable s.piece.Sound)

instance (t : Template) : Decidable t.Sound := List.decidableBAll _ t

theorem sound_of_pieces (h : ∀ piece ∈ t.pieces, piece.Sound) : t.Sound :=
  fun _ hs => h _ (List.mem_map_of_mem hs)

/-- A segment with one name filled. -/
def Segment.put (k value : String) : Segment → Segment
  | .lines texts => .lines texts
  | .blank name => if name = k then .lines [value] else .blank name

/-- A segment with all names filled. A hole without a text stays. -/
def Segment.fill (f : Filling) : Segment → Segment
  | .lines texts => .lines texts
  | .blank name => match List.lookup name f with
    | some value => .lines [value]
    | none => .blank name

/-- A template with all of its holes filled at once. -/
def Template.fill (t : Template) (f : Filling) : String := Template.text (t.map (Segment.fill f))

theorem fill_nil (f : Filling) : Template.fill [] f = "" := rfl

theorem fill_cons (s : Segment) (t : Template) (f : Filling) :
    Template.fill (s :: t) f = (s.fill f).text ++ t.fill f := by
  unfold Template.fill Template.text
  rw [List.map_cons, List.map_cons, String.join_cons]

theorem text_fill_lines (texts : List String) (f : Filling) :
    ((Segment.lines texts).fill f).text = Text.join "\n" texts := rfl

theorem text_fill_blank (h : List.lookup name f = some value) :
    ((Segment.blank name).fill f).text = value := by
  rw [Segment.fill, h]
  rfl

@[simp] theorem toList_text_nil : (Template.text []).toList = [] := rfl

@[simp] theorem toList_text_cons (s : Segment) (t : Template) :
    (Template.text (s :: t)).toList = s.text.toList ++ (Template.text t).toList := by
  unfold Template.text
  rw [List.map_cons, String.toList_join, String.toList_join, List.flatMap_cons]

theorem sound_cons {s : Segment} : Template.Sound (s :: t) ↔ s.Sound ∧ t.Sound :=
  List.forall_mem_cons

theorem ready_text (ht : t.Sound) : Ready t.text.toList := by
  induction t with
  | nil => exact .inl trivial
  | cons s t ih =>
    obtain ⟨hs, hlater⟩ := sound_cons.mp ht
    rw [toList_text_cons]
    cases s with
    | lines texts =>
      have hfront := Bare.front hs
      rw [Segment.text]
      cases hlines : (Text.join "\n" texts).toList with
      | nil => exact ih hlater
      | cons c cs =>
        rw [hlines] at hfront
        exact .inl hfront
    | blank name =>
      rw [Segment.text, toList_hole]
      exact .inr ⟨_, rfl⟩

/-- Looking for one name fills the holes of that name, and nothing else. -/
theorem replaceAll_text (ht : t.Sound) (hk : Braceless k) (value : String) :
    replaceAll (hole k).toList value.toList t.text.toList =
      (Template.text (t.map (Segment.put k value))).toList := by
  induction t with
  | nil => rfl
  | cons s t ih =>
    obtain ⟨hs, hlater⟩ := sound_cons.mp ht
    rw [List.map_cons, toList_text_cons, toList_text_cons, ← ih hlater]
    cases s with
    | lines texts => exact replaceAll_literal (Bare.inside hs) (ready_text hlater) k value.toList
    | blank name =>
      rw [Segment.put]
      split
      · rename_i heq
        subst heq
        exact replaceAll_append_self (hole_ne_nil name) value.toList _
      · rename_i hne
        exact replaceAll_other hs hk hne value.toList _

theorem fill_put (k value : String) (f : Filling) (s : Segment) :
    (s.put k value).fill f = s.fill ((k, value) :: f) := by
  cases s with
  | lines texts => rfl
  | blank name =>
    rw [Segment.put, Segment.fill, List.lookup_cons]
    split
    · rename_i heq
      rw [beq_iff_eq.mpr heq]
      rfl
    · rename_i hne
      rw [beq_eq_false_iff_ne.mpr hne]
      rfl

theorem sound_put {s : Segment} (hs : s.Sound) (hvalue : s = .blank k → Bare value.toList) :
    (s.put k value).Sound := by
  cases s with
  | lines texts => exact hs
  | blank name =>
    rw [Segment.put]
    split
    · rename_i heq
      exact hvalue (by rw [heq])
    · exact hs

/-- Filling name by name fills all holes at once. -/
theorem renderChars_text (ht : t.Sound) (hnames : ∀ entry ∈ f, Braceless entry.1)
    (hvalues : ∀ entry ∈ f, Segment.blank entry.1 ∈ t → Bare entry.2.toList) :
    renderChars t.text.toList f = (t.fill f).toList := by
  induction f generalizing t with
  | nil =>
    have hsame : t.map (Segment.fill []) = t := by
      refine List.map_id'' (fun s => ?_) t
      cases s <;> rfl
    rw [Template.fill, hsame]
    rfl
  | cons entry f ih =>
    obtain ⟨k, value⟩ := entry
    obtain ⟨hk, hnames⟩ := List.forall_mem_cons.mp hnames
    obtain ⟨hvalue, hvalues⟩ := List.forall_mem_cons.mp hvalues
    have hput : Template.Sound (t.map (Segment.put k value)) :=
      List.forall_mem_map.mpr fun s hs => sound_put (ht s hs) fun heq => hvalue (heq ▸ hs)
    have hlater : ∀ entry ∈ f, Segment.blank entry.1 ∈ t.map (Segment.put k value) →
        Bare entry.2.toList := by
      intro entry hentry hblank
      obtain ⟨s, hs, heq⟩ := List.mem_map.mp hblank
      refine hvalues entry hentry ?_
      cases s with
      | lines texts => cases heq
      | blank name =>
        rw [Segment.put] at heq
        split at heq
        · cases heq
        · cases heq
          exact hs
    have hfill : Template.fill (t.map (Segment.put k value)) f = t.fill ((k, value) :: f) := by
      unfold Template.fill
      rw [List.map_map]
      exact congrArg _ (List.map_congr_left fun s _ => fill_put k value f s)
    have hstep : renderChars t.text.toList ((k, value) :: f) =
        renderChars (replaceAll (hole k).toList value.toList t.text.toList) f := rfl
    rw [hstep, replaceAll_text ht hk, ih hput hnames hlater, hfill]

theorem render_text (ht : t.Sound) (hnames : ∀ entry ∈ f, Braceless entry.1)
    (hvalues : ∀ entry ∈ f, Segment.blank entry.1 ∈ t → Bare entry.2.toList) :
    render t.text f = t.fill f := by
  unfold render
  rw [renderChars_text ht hnames hvalues, String.ofList_toList]

/-! ## Filled templates -/

/-- A filling that has a text for a name has an entry of it. -/
theorem exists_lookup (h : name ∈ f.map (·.1)) : ∃ value, List.lookup name f = some value := by
  cases hlookup : List.lookup name f with
  | some value => exact ⟨value, rfl⟩
  | none =>
    obtain ⟨entry, hentry, rfl⟩ := List.mem_map.mp h
    have hother := List.lookup_eq_none_iff.mp hlookup entry hentry
    simp at hother

theorem mem_of_lookup (h : List.lookup name f = some value) : (name, value) ∈ f := by
  obtain ⟨before, after, rfl, -⟩ := List.lookup_eq_some_iff.mp h
  simp

/-- A template of which every hole has a bare text is filled to a bare text. -/
theorem bare_fill (ht : t.Sound) (hnames : ∀ name, .blank name ∈ t → name ∈ f.map (·.1))
    (hvalues : ∀ entry ∈ f, Segment.blank entry.1 ∈ t → Bare entry.2.toList) :
    Bare (t.fill f).toList := by
  unfold Template.fill Template.text
  rw [String.toList_join, List.map_map, List.flatMap_map]
  refine bare_flatten (List.forall_mem_map.mpr fun s hs => ?_)
  cases s with
  | lines texts => exact ht _ hs
  | blank name =>
    obtain ⟨value, hvalue⟩ := exists_lookup (hnames name hs)
    have hfill : Segment.fill f (.blank name) = .lines [value] := by
      rw [Segment.fill, hvalue]
    rw [Function.comp_apply, hfill]
    exact hvalues (name, value) (mem_of_lookup hvalue) hs

/-! ## The order of a filling -/

/-- Where every name has one text, a name is looked up to the text it has, wherever it stands. -/
theorem lookup_eq_some_iff_mem (hkeys : (f.map (·.1)).Nodup) :
    List.lookup name f = some value ↔ (name, value) ∈ f := by
  refine ⟨mem_of_lookup, fun hmem => ?_⟩
  obtain ⟨found, hfound⟩ := exists_lookup (List.mem_map_of_mem hmem)
  have hsame : (name, found) = (name, value) :=
    List.inj_on_of_nodup_map hkeys (mem_of_lookup hfound) hmem rfl
  rw [hfound, (Prod.mk.inj hsame).2]

theorem lookup_perm {g : Filling} (hkeys : (f.map (·.1)).Nodup) (hperm : g.Perm f) (name : String) :
    List.lookup name g = List.lookup name f := by
  have hkeys' : (g.map (·.1)).Nodup := (hperm.map _).nodup_iff.mpr hkeys
  refine Option.ext fun value => ?_
  rw [lookup_eq_some_iff_mem hkeys', lookup_eq_some_iff_mem hkeys, hperm.mem_iff]

/-- Filling all holes at once, no name comes before another. -/
theorem fill_perm {g : Filling} (hkeys : (f.map (·.1)).Nodup) (hperm : g.Perm f) (t : Template) :
    t.fill g = t.fill f := by
  unfold Template.fill
  refine congrArg _ (List.map_congr_left fun s _ => ?_)
  cases s with
  | lines texts => rfl
  | blank name => rw [Segment.fill, Segment.fill, lookup_perm hkeys hperm name]

/-- A template of bare literals is filled with bare texts as if all its holes were filled at once: a hole
whose name has a text becomes that text, every other hole and every literal stays. So the order in which
the names are filled does not matter. -/
theorem render_simultaneous (ht : t.Sound) (hnames : ∀ entry ∈ f, Braceless entry.1)
    (hvalues : ∀ entry ∈ f, Bare entry.2.toList) (hkeys : (f.map (·.1)).Nodup) :
    render t.text f = t.fill f ∧ ∀ g, g.Perm f → render t.text g = render t.text f := by
  have hfill := render_text ht hnames fun entry hentry _ => hvalues entry hentry
  refine ⟨hfill, fun g hperm => ?_⟩
  have hnames' : ∀ entry ∈ g, Braceless entry.1 := fun entry hentry =>
    hnames entry (hperm.mem_iff.mp hentry)
  have hvalues' : ∀ entry ∈ g, Segment.blank entry.1 ∈ t → Bare entry.2.toList := fun entry hentry _ =>
    hvalues entry (hperm.mem_iff.mp hentry)
  calc render t.text g
      = t.fill g := render_text ht hnames' hvalues'
    _ = t.fill f := fill_perm hkeys hperm t
    _ = render t.text f := hfill.symm

/-- Literals that end in a brace or hold marks that only close, and a hole that has no text. -/
def bracedTemplate : Template :=
  [.lines ["a\x7b"], .blank "x", .lines [" y \x7d\x7d"], .blank "y", .blank "z"]

/-- Texts of the same kind. -/
def bracedFilling : Filling := [("x", "b\x7b"), ("y", " x \x7d\x7d")]

theorem braced_filled :
    bracedTemplate.Sound ∧ (∀ entry ∈ bracedFilling, Braceless entry.1) ∧
      (∀ entry ∈ bracedFilling, Bare entry.2.toList) ∧ (bracedFilling.map (·.1)).Nodup ∧
      render bracedTemplate.text bracedFilling.reverse =
        "a\x7bb\x7b y \x7d\x7d x \x7d\x7d\x7b\x7b z \x7d\x7d" := by
  have ht : bracedTemplate.Sound := by decide
  have hnames : ∀ entry ∈ bracedFilling, Braceless entry.1 := by decide
  have hvalues : ∀ entry ∈ bracedFilling, Bare entry.2.toList := by decide
  have hkeys : (bracedFilling.map (·.1)).Nodup := by decide
  obtain ⟨hfill, hperm⟩ := render_simultaneous ht hnames hvalues hkeys
  refine ⟨ht, hnames, hvalues, hkeys, ?_⟩
  rw [hperm _ (List.reverse_perm _), hfill]
  decide

end Scaffold.Stub
