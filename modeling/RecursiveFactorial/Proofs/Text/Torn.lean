import RecursiveFactorial.Proofs.Text.Characters

/-!
# Octets cut in two

Octets can be cut anywhere and each part read lossily on its own. A cut between two characters does no harm, and no cut
makes the damage smaller. A cut inside a character leaves its octets in front of the cut as one ill-formed piece and
each of its octets behind the cut as another, so that more U+FFFD are read than from the whole.
-/
namespace RecursiveFactorial.Utf8

section Scanning

/-- Reading that has not begun a character, or one outside ASCII. -/
def Sound (state : Option Unfinished) : Prop :=
  ∀ u ∈ state, u.Foreign

theorem sound_none : Sound none := by
  intro u hu
  cases hu

theorem sound_some {u : Unfinished} (hu : u.Foreign) : Sound (some u) := by
  intro v hv
  cases hv
  exact hu

theorem foreign_of_lead {b : UInt8} {u : Unfinished} (h : lead b = .inr u) : u.Foreign := by
  have hb : 0x80 ≤ b := by
    rw [← UInt8.not_lt]
    intro hlt
    simp [lead, following, hlt] at h
  have hlead := leadsForeign_of_le b hb
  simp only [leadsForeign, h, Bool.and_eq_true, decide_eq_true_eq, List.all_eq_true] at hlead
  exact ⟨hlead.1.1, hlead.1.2, hlead.2⟩

/-- A leading octet makes some pieces and leaves a state, whatever follows. -/
theorem exists_scan_lead (b : UInt8) :
    ∃ ps state, (∀ bs, scan none (b :: bs) = ps ++ scan state bs) ∧ Sound state := by
  cases hlead : lead b with
  | inl p => exact ⟨[p], none, fun bs => by simp [scan, hlead], sound_none⟩
  | inr u => exact ⟨[], some u, fun bs => by simp [scan, hlead], sound_some (foreign_of_lead hlead)⟩

theorem scan_some_of_not_holds {u : Unfinished} {b : UInt8} (hb : ¬u.next.holds b = true) (bs : Octets) :
    scan (some u) (b :: bs) = .invalid u.length :: scan none (b :: bs) := by
  cases hlead : lead b <;> simp [scan, hb, hlead]

theorem exists_scan_cons {state : Option Unfinished} (hstate : Sound state) (b : UInt8) :
    ∃ ps next, (∀ bs, scan state (b :: bs) = ps ++ scan next bs) ∧ Sound next := by
  cases state with
  | none => exact exists_scan_lead b
  | some u =>
    have hu : u.Foreign := hstate u rfl
    by_cases hb : u.next.holds b = true
    · obtain ⟨p, hp, -⟩ | ⟨v, hv, hforeign⟩ := hu.extend hb
      · exact ⟨[p], none, fun bs => by simp [scan, hb, hp], sound_none⟩
      · exact ⟨[], some v, fun bs => by simp [scan, hb, hv], sound_some hforeign⟩
    · obtain ⟨ps, next, hnext, hsound⟩ := exists_scan_lead b
      refine ⟨.invalid u.length :: ps, next, fun bs => ?_, hsound⟩
      rw [scan_some_of_not_holds hb, hnext, List.cons_append]

/-- Octets make some pieces and leave a state, whatever follows. -/
theorem exists_scan_append {state : Option Unfinished} (hstate : Sound state) (a : Octets) :
    ∃ ps next, (∀ bs, scan state (a ++ bs) = ps ++ scan next bs) ∧ Sound next := by
  induction a generalizing state with
  | nil => exact ⟨[], state, fun _ => rfl, hstate⟩
  | cons b a ih =>
    obtain ⟨ps, next, hnext, hsound⟩ := exists_scan_cons hstate b
    obtain ⟨qs, last, hlast, hsound⟩ := ih hsound
    refine ⟨ps ++ qs, last, fun bs => ?_, hsound⟩
    rw [List.cons_append, hnext, hlast, List.append_assoc]

/-- An octet of ASCII is read alike whatever stands before it. -/
theorem lossyChars_append_ascii (a : Octets) {b : UInt8} (hb : b < 0x80) (bs : Octets) :
    lossyChars (a ++ b :: bs) = lossyChars a ++ lossyChars (b :: bs) := by
  obtain ⟨ps, state, hscan, hstate⟩ := exists_scan_append sound_none a
  have ha := hscan []
  rw [List.append_nil] at ha
  simp only [lossyChars, pieces, hscan, ha, List.map_append, List.append_assoc]
  congr 1
  cases state with
  | none => rfl
  | some u =>
    have hu : ¬u.next.holds b = true := by
      intro hholds
      have hlow : u.next.low ≤ b := by
        simp only [Range.holds, Bool.and_eq_true, decide_eq_true_eq] at hholds
        exact hholds.1
      exact absurd hb (UInt8.not_lt.mpr (UInt8.le_trans (hstate u rfl).next.1 hlow))
    rw [scan_some_of_not_holds hu]
    rfl

end Scanning

section Damage

/-- The number of U+FFFD that octets are read with. -/
def damage (bs : Octets) : Nat :=
  (lossyChars bs).count '\ufffd'

theorem lossyChars_encodeChars_append (cs : List Char) (bs : Octets) :
    lossyChars (encodeChars cs ++ bs) = cs ++ lossyChars bs := by
  induction cs with
  | nil => rfl
  | cons c cs ih =>
    have hscan := scan_encodeChar c (encodeChars cs ++ bs)
    simp only [lossyChars, pieces, encodeChars_cons, List.append_assoc, List.cons_append] at ih ⊢
    rw [hscan, List.map_cons, ih]
    rfl

theorem lossyChars_encodeChars (cs : List Char) : lossyChars (encodeChars cs) = cs := by
  have h := lossyChars_encodeChars_append cs []
  rwa [List.append_nil, show lossyChars [] = [] from rfl, List.append_nil] at h

/-- An octet that continues a character begins none. -/
theorem lossyChars_continuation {b : UInt8} (hlow : 0x80 ≤ b) (hhigh : b ≤ 0xbf) (bs : Octets) :
    lossyChars (b :: bs) = '\ufffd' :: lossyChars bs := by
  have hfollowing : following b = none := by
    have hfew : b < 0xc2 := UInt8.lt_of_le_of_lt hhigh (by decide)
    simp [following, UInt8.not_lt.mpr hlow, hfew]
  simp [lossyChars, pieces, scan, lead, hfollowing, Piece.shown]

theorem count_scan_some_le {u : Unfinished} (hu : u.Foreign) (bs : Octets) :
    ((scan (some u) bs).map Piece.shown).count '\ufffd' ≤ 1 + damage bs := by
  induction bs generalizing u with
  | nil => simp [scan, Piece.shown]
  | cons b bs ih =>
    by_cases hb : u.next.holds b = true
    · have hrange : u.next.low ≤ b ∧ b ≤ u.next.high := by
        simpa [Range.holds] using hb
      have hstray := lossyChars_continuation (UInt8.le_trans hu.next.1 hrange.1) (UInt8.le_trans hrange.2 hu.next.2) bs
      have hdamage : damage (b :: bs) = damage bs + 1 := by
        rw [damage, hstray, List.count_cons_self, damage]
      rw [scan, if_pos hb, hdamage]
      obtain ⟨p, hp, -⟩ | ⟨v, hv, hforeign⟩ := hu.extend hb
      · rw [hp]
        simp only [List.map_cons, List.count_cons, damage, lossyChars, pieces]
        split <;> omega
      · rw [hv]
        have hrest := ih hforeign
        simp only at hrest ⊢
        omega
    · rw [scan_some_of_not_holds hb, List.map_cons, Piece.shown, List.count_cons_self, Nat.add_comm]
      exact Nat.le_refl _

/-- No cut makes the damage smaller. -/
theorem damage_append_le (a b : Octets) : damage (a ++ b) ≤ damage a + damage b := by
  obtain ⟨ps, state, hscan, hstate⟩ := exists_scan_append sound_none a
  have ha := hscan []
  rw [List.append_nil] at ha
  simp only [damage, lossyChars, pieces, hscan, ha, List.map_append, List.count_append]
  cases state with
  | none => simp [scan]
  | some u =>
    have hrest := count_scan_some_le (hstate u rfl) b
    simp only [damage, lossyChars, pieces] at hrest
    simp only [scan, Piece.shown, List.map_cons, List.map_nil, List.count_singleton_self]
    omega

theorem damage_flatten_le (parts : List Octets) :
    damage parts.flatten ≤ (parts.flatMap lossyChars).count '\ufffd' := by
  induction parts with
  | nil => exact Nat.le_refl 0
  | cons part parts ih =>
    rw [List.flatten_cons, List.flatMap_cons, List.count_append]
    exact Nat.le_trans (damage_append_le part parts.flatten) (Nat.add_le_add_left ih _)

end Damage

section Torn

/-- The cut is inside a character: some of its octets stand in front of the cut and some behind it. -/
def Torn (cs : List Char) (front back : Octets) : Prop :=
  ∃ u c v x y, cs = u ++ c :: v ∧ String.utf8EncodeChar c = x ++ y ∧ x ≠ [] ∧ y ≠ [] ∧
    front = encodeChars u ++ x ∧ back = y ++ encodeChars v

variable {cs : List Char} {c : Char} {front back x y : Octets}

/-- A cut is between two characters or inside one. -/
theorem torn_or_between (h : encodeChars cs = front ++ back) :
    (∃ u v, cs = u ++ v ∧ front = encodeChars u ∧ back = encodeChars v) ∨ Torn cs front back := by
  induction cs generalizing front with
  | nil =>
    obtain ⟨rfl, rfl⟩ := List.append_eq_nil_iff.mp h.symm
    exact .inl ⟨[], [], rfl, rfl, rfl⟩
  | cons c cs ih =>
    rw [encodeChars_cons] at h
    obtain ⟨x, hfront, hrest⟩ | ⟨y, hc, hback⟩ := List.append_eq_append_iff.mp h
    · -- The cut comes after the first character.
      obtain ⟨u, v, rfl, rfl, rfl⟩ | ⟨u, d, v, x, y, rfl, hd, hx, hy, rfl, rfl⟩ := ih hrest
      · exact .inl ⟨c :: u, v, rfl, hfront, rfl⟩
      · refine .inr ⟨c :: u, d, v, x, y, rfl, hd, hx, hy, ?_, rfl⟩
        rw [hfront, encodeChars_cons, List.append_assoc]
    · by_cases hy : y = []
      · subst hy
        rw [List.append_nil] at hc
        exact .inl ⟨[c], cs, rfl, by simp [encodeChars_cons, hc], hback⟩
      by_cases hfront : front = []
      · subst hfront
        exact .inl ⟨[], c :: cs, rfl, rfl, h.symm⟩
      · exact .inr ⟨[], c, cs, front, y, rfl, hc, hfront, hy, rfl, hback⟩

theorem scan_some_ne_nil (u : Unfinished) (bs : Octets) : scan (some u) bs ≠ [] := by
  induction bs generalizing u with
  | nil => simp [scan]
  | cons b bs ih =>
    rw [scan]
    split
    · cases u.extend b with
      | inl p => simp
      | inr v => exact ih v
    · simp

theorem scan_none_ne_nil {bs : Octets} (h : bs ≠ []) : scan none bs ≠ [] := by
  obtain ⟨b, bs, rfl⟩ := List.exists_cons_of_ne_nil h
  rw [scan]
  cases lead b with
  | inl p => simp
  | inr u => exact scan_some_ne_nil u bs

/-- Octets that are one character with what follows them are an unfinished one without. -/
theorem scan_front {state : Option Unfinished} (h : scan state (x ++ y) = [.scalar c]) (hy : y ≠ [])
    (hx : state = none → x ≠ []) : ∃ n, scan state x = [.cutOff n] := by
  have hdone {p : Piece} {z : Octets} : p :: scan none (z ++ y) ≠ [.scalar c] := by
    intro hp
    exact scan_none_ne_nil (List.append_ne_nil_of_right_ne_nil z hy) (List.cons.inj hp).2
  induction x generalizing state with
  | nil =>
    cases state with
    | none => exact absurd rfl (hx rfl)
    | some u => exact ⟨u.length, rfl⟩
  | cons b x ih =>
    cases state with
    | none =>
      rw [List.cons_append, scan] at h
      rw [scan]
      cases hlead : lead b with
      | inl p => exact absurd (by simpa [hlead] using h) hdone
      | inr u => exact ih (by simpa [hlead] using h) (by simp)
    | some u =>
      by_cases hb : u.next.holds b = true
      · rw [List.cons_append, scan, if_pos hb] at h
        rw [scan, if_pos hb]
        cases hextend : u.extend b with
        | inl p => exact absurd (by simpa [hextend] using h) hdone
        | inr v => exact ih (by simpa [hextend] using h) (by simp)
      · rw [List.cons_append, scan_some_of_not_holds hb] at h
        cases h

theorem lossyChars_front (hc : String.utf8EncodeChar c = x ++ y) (hx : x ≠ []) (hy : y ≠ []) :
    lossyChars x = ['\ufffd'] := by
  have hscan := scan_encodeChar c []
  rw [List.append_nil, hc] at hscan
  obtain ⟨n, hn⟩ := scan_front hscan hy (fun _ => hx)
  rw [lossyChars, pieces, hn]
  rfl

theorem continues_of_mem_tail : ∀ b ∈ (String.utf8EncodeChar c).tail, continuation.holds b = true := by
  intro b hb
  simp only [String.utf8EncodeChar] at hb
  repeat' split at hb
  all_goals
    simp only [List.tail_cons, List.mem_cons, List.not_mem_nil, or_false] at hb
  · rw [hb]
    exact continuation_holds _
  · obtain rfl | rfl := hb <;> exact continuation_holds _
  · obtain rfl | rfl | rfl := hb <;> exact continuation_holds _

/-- Each octet behind the cut is an ill-formed piece of its own. -/
theorem damage_back (hc : String.utf8EncodeChar c = x ++ y) (hx : x ≠ []) (bs : Octets) :
    damage (y ++ bs) = y.length + damage bs := by
  have hcontinues : ∀ b ∈ y, continuation.holds b = true := by
    intro b hb
    apply continues_of_mem_tail (c := c)
    obtain ⟨a, x, rfl⟩ := List.exists_cons_of_ne_nil hx
    rw [hc, List.cons_append, List.tail_cons]
    exact List.mem_append_right x hb
  clear hc
  induction y with
  | nil => simp
  | cons b y ih =>
    obtain ⟨hb, hy⟩ := List.forall_mem_cons.mp hcontinues
    have hrange : 0x80 ≤ b ∧ b ≤ 0xbf := by
      rwa [Range.holds, Bool.and_eq_true, decide_eq_true_eq, decide_eq_true_eq] at hb
    rw [List.cons_append, damage, lossyChars_continuation hrange.1 hrange.2, List.count_cons_self, List.length_cons]
    have hrest := ih hy
    rw [damage] at hrest
    omega

/-- A torn character is read with more U+FFFD than a whole one. -/
theorem Torn.count_lt (h : Torn cs front back) : cs.count '\ufffd' < damage front + damage back := by
  obtain ⟨u, c, v, x, y, rfl, hc, hx, hy, rfl, rfl⟩ := h
  have hfront : damage (encodeChars u ++ x) = u.count '\ufffd' + 1 := by
    rw [damage, lossyChars_encodeChars_append, lossyChars_front hc hx hy, List.count_append, List.count_singleton_self]
  have hback : damage (y ++ encodeChars v) = y.length + v.count '\ufffd' := by
    rw [damage_back hc hx, damage, lossyChars_encodeChars]
  have hlength := List.length_pos_iff.mpr hy
  rw [hfront, hback, List.count_append, List.count_cons]
  split <;> omega

theorem Torn.back_ne_nil (h : Torn cs front back) : back ≠ [] := by
  obtain ⟨u, c, v, x, y, rfl, hc, hx, hy, rfl, rfl⟩ := h
  exact List.append_ne_nil_of_left_ne_nil hy _

theorem Torn.append_left (h : Torn cs front back) (ds : List Char) :
    Torn (ds ++ cs) (encodeChars ds ++ front) back := by
  obtain ⟨u, c, v, x, y, rfl, hc, hx, hy, rfl, rfl⟩ := h
  refine ⟨ds ++ u, c, v, x, y, ?_, hc, hx, hy, ?_, rfl⟩
  · rw [List.append_assoc]
  · rw [encodeChars_append, List.append_assoc]

/-- No octet of a torn character is ASCII. -/
theorem Torn.last_foreign (h : Torn cs front back) : ∀ b ∈ front.getLast?, 0x80 ≤ b := by
  obtain ⟨u, c, v, x, y, rfl, hc, hx, hy, rfl, rfl⟩ := h
  have hwide : 0x80 ≤ c.toNat := by
    apply Nat.le_of_not_lt
    intro hascii
    rw [utf8EncodeChar_of_lt hascii] at hc
    have hlength := congrArg List.length hc
    have hxlength := List.length_pos_iff.mpr hx
    have hylength := List.length_pos_iff.mpr hy
    rw [List.length_append, List.length_singleton] at hlength
    omega
  intro b hb
  rw [List.getLast?_append, List.getLast?_eq_some_getLast hx, Option.some_or, Option.mem_some] at hb
  apply le_of_mem_utf8EncodeChar hwide
  rw [hc, ← hb]
  exact List.mem_append_left y (List.getLast_mem hx)

end Torn

end RecursiveFactorial.Utf8
