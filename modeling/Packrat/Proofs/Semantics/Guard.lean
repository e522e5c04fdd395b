import Packrat.Proofs.Semantics.Forward

/-! The guards do not change what a rule comes to. A rule that ends as such does so below any open rules too,
unless the nesting is too deep or an open rule is entered again where it started. -/
namespace Packrat
namespace Semantics

variable {P F T E : Type} {x : Semantics P F T E}

theorem prependHalts {o : Result F T E} (h : o.Halts) (m : F) (trail : T) : x.prepend m trail o = o := by
  cases o with
  | ok _ _ => exact h.elim
  | mismatch _ => exact h.elim
  | fatal _ => rfl
  | cut => rfl

def Agrees (excused : Result F T E → Prop) (o o' : Result F T E) : Prop :=
  ¬ o.Halts → o' = o ∨ o'.Halts ∧ excused o'

namespace Agrees

variable {excused : Result F T E → Prop} {o o' : Result F T E}

theorem refl (o : Result F T E) : Agrees excused o o := fun _ => .inl rfl

theorem ofHalts (halts : o.Halts) : Agrees excused o o' := fun ends => absurd halts ends

theorem whenPrepended (h : Agrees excused o o') (m : F) (trail : T) :
    Agrees excused (x.prepend m trail o) (x.prepend m trail o') := by
  intro ends
  have inner : ¬ o.Halts := fun halts => ends (by rw [prependHalts halts]; exact halts)
  rcases h inner with rfl | ⟨halts, excuse⟩
  · exact .inl rfl
  · rw [prependHalts halts]
    exact .inr ⟨halts, excuse⟩

theorem elim {found found' : F → T → Result F T E} {failed failed' : T → Result F T E}
    (h : Agrees excused o o') (ok : ∀ m trail, o = .ok m trail → Agrees excused (found m trail) (found' m trail))
    (no : ∀ trail, o = .mismatch trail → Agrees excused (failed trail) (failed' trail)) :
    Agrees excused (o.elim found failed) (o'.elim found' failed') := by
  intro ends
  have inner : ¬ o.Halts := fun halts => ends (by rw [Result.elimHalts halts]; exact halts)
  rcases h inner with rfl | ⟨halts, excuse⟩
  · cases o' with
    | ok m trail => exact ok m trail rfl ends
    | mismatch trail => exact no trail rfl ends
    | fatal error => exact absurd trivial inner
    | cut => exact absurd trivial inner
  · rw [Result.elimHalts halts]
    exact .inr ⟨halts, excuse⟩

theorem inRule (h : Agrees excused o o') (name : String) (p : P) :
    Agrees excused (x.inRule name p o) (x.inRule name p o') :=
  h.elim (fun _ _ _ => refl _) (fun _ _ => refl _)

end Agrees

def AgreeFrom (x : Semantics P F T E) (good : P → Prop) (excused : Result F T E → Prop) (start : P)
    (f f' : Eval P F T E) : Prop :=
  ∀ p, good p → Ahead x.offset start p → ∀ n n', Agrees excused (f p n) (f' p n')

variable {good : P → Prop} {onward : P → F → Prop} {excused : Result F T E → Prop} {start : P}

theorem AgreeFrom.refl {f : Eval P F T E} (same : ∀ p n n', f p n = f p n') : x.AgreeFrom good excused start f f := by
  intro p _ _ n n'
  rw [same p n n']
  exact Agrees.refl _

theorem agreeFirstOf {bodies : List Body} {f f' : Body → Eval P F T E}
    (each : ∀ b ∈ bodies, x.AgreeFrom good excused start (f b) (f' b)) :
    x.AgreeFrom good excused start (x.firstOf (bodies.map f)) (x.firstOf (bodies.map f')) := by
  induction bodies with
  | nil => exact AgreeFrom.refl fun p n n' => rfl
  | cons b rest ih =>
    intro p stands ahead n n'
    rw [List.forall_mem_cons] at each
    exact (each.1 p stands ahead n n').elim (fun m trail _ => Agrees.refl _)
      (fun trail _ => (ih each.2 p stands ahead n n').whenPrepended _ trail)

theorem agreeOptional {body body' : Eval P F T E} (agree : x.AgreeFrom good excused start body body') :
    x.AgreeFrom good excused start (x.optional body) (x.optional body') :=
  fun p stands ahead n n' => (agree p stands ahead n n').elim (fun _ _ _ => Agrees.refl _)
    (fun _ _ => Agrees.refl _)

abbrev Around (P : Type) := List (String × P)

def stack (x : Semantics P F T E) (around : Around P) : List (String × Nat) :=
  around.map fun e => (e.1, x.offset e.2)

theorem enteredHere {around : Around P} {name : String} {p : P} (inside : ∀ e ∈ around, Ahead x.offset e.2 p)
    (isOpen : (x.stack around).contains (name, x.offset p)) : (name, p) ∈ around := by
  obtain ⟨⟨name', q⟩, member, same⟩ := List.mem_map.mp (List.contains_iff_mem.mp isOpen)
  obtain ⟨rfl, offset⟩ := Prod.mk.inj same
  rcases inside _ member with rfl | further
  · exact member
  · exact absurd offset (Nat.ne_of_lt further)

/- The reasons for which a rule that ends as such may still be refused: want of levels or of
errors, or a rule around it that ends as such. -/
def Excused (x : Semantics P F T E) (limit : Option Nat) (table : String → Body) (height : Nat)
    (around : Around P) (o : Result F T E) : Prop :=
  limit ≠ none ∧ o = .cut ∨ (∃ stack name p, o = .fatal (x.tooDeep stack name p)) ∨
    ∃ e ∈ around, ∃ k ≤ height, ¬ (x.free table k e.1 e.2 0).Halts

namespace Excused

variable {limit : Option Nat} {table : String → Body} {height higher : Nat} {around : Around P} {o : Result F T E}

theorem atHigherLevel (h : x.Excused limit table height around o) (le : height ≤ higher) :
    x.Excused limit table higher around o := by
  rcases h with cut | deep | ⟨e, member, k, low, ends⟩
  · exact .inl cut
  · exact .inr (.inl deep)
  · exact .inr (.inr ⟨e, member, k, Nat.le_trans low le, ends⟩)

theorem outsideOpened {name : String} {p : P} (h : x.Excused limit table height ((name, p) :: around) o)
    (endless : ∀ k ≤ height, (x.free table k name p 0).Halts) : x.Excused limit table height around o := by
  rcases h with cut | deep | ⟨e, member, k, low, ends⟩
  · exact .inl cut
  · exact .inr (.inl deep)
  · rcases List.mem_cons.mp member with rfl | member
    · exact absurd (endless k low) ends
    · exact .inr (.inr ⟨e, member, k, low, ends⟩)

end Excused

namespace Lawful

variable (lawful : x.Lawful good onward)
include lawful

theorem agreeInOrder {bodies : List Body} {f f' : Body → Eval P F T E}
    (each : ∀ b ∈ bodies, x.AgreeFrom good excused start (f b) (f' b))
    (forward : ∀ b ∈ bodies, Forward good onward (f b)) :
    x.AgreeFrom good excused start (x.inOrder (bodies.map f)) (x.inOrder (bodies.map f')) := by
  induction bodies with
  | nil => exact AgreeFrom.refl fun p n n' => rfl
  | cons b rest ih =>
    intro p stands ahead n n'
    rw [List.forall_mem_cons] at each forward
    have later := ih each.2 forward.2
    refine (each.1 p stands ahead n n').elim (fun m trail got => ?_) (fun trail _ => Agrees.refl _)
    have first := forward.1 p stands n m trail got
    exact (later (x.stop m) (lawful.there first) (ahead.trans (lawful.ahead first)) _ _).whenPrepended m trail

section
variable {limit limit' : Option Nat} {stack stack' : List (String × Nat)}
  (spared : ∀ n, Exhausted limit' n → excused .cut)
include spared

theorem agreeMending {again again' : Eval P F T E} (agree : x.AgreeFrom good excused start again again')
    {p : P} (stands : good p) (ahead : Ahead x.offset start p) (n n' : Nat) (trail : T) :
    Agrees excused (x.mending limit again p n trail) (x.mending limit' again' p n' trail) := by
  unfold mending
  by_cases moved : x.mends p trail
  · rw [if_pos moved, if_pos moved]
    by_cases spent : Exhausted limit n
    · rw [if_pos spent]
      exact Agrees.ofHalts trivial
    · rw [if_neg spent]
      by_cases spent' : Exhausted limit' n'
      · rw [if_pos spent']
        exact fun _ => .inr ⟨trivial, spared n' spent'⟩
      · rw [if_neg spent']
        cases passed : x.mended p trail with
        | none => exact Agrees.refl _
        | some skipped =>
          have first := lawful.mended stands passed
          exact (agree (x.stop skipped.1) (lawful.there first) (ahead.trans (lawful.ahead first)) _ _).whenPrepended _ _
  · rw [if_neg moved, if_neg moved]
    exact Agrees.refl _

theorem agreeRepeated {body body' : Eval P F T E} (agree : x.AgreeFrom good excused start body body')
    (forward : Forward good onward body) (fuel done : Nat) :
    x.AgreeFrom good excused start (x.repeated limit stack body fuel done)
      (x.repeated limit' stack' body' fuel done) := by
  induction fuel generalizing done with
  | zero => exact fun p _ _ n n' => Agrees.ofHalts trivial
  | succ fuel ih =>
    intro p stands ahead n n'
    refine (agree p stands ahead n n').elim (fun m trail got => ?_) (fun trail _ => ?_)
    · have first := forward p stands n m trail got
      split
      · exact Agrees.ofHalts trivial
      · exact (ih _ (x.stop m) (lawful.there first) (ahead.trans (lawful.ahead first)) _ _).whenPrepended m _
    · exact lawful.agreeMending spared (ih (done + 1)) stands ahead n n' trail

theorem agreeSome {body body' : Eval P F T E} (agree : x.AgreeFrom good excused start body body')
    (forward : Forward good onward body) :
    x.AgreeFrom good excused start (x.some limit stack body) (x.some limit' stack' body') := by
  intro p stands ahead n n'
  refine (agree p stands ahead n n').elim (fun m trail got => ?_) (fun _ _ => Agrees.refl _)
  have first := forward p stands n m trail got
  split
  · exact Agrees.ofHalts trivial
  · exact (lawful.agreeRepeated spared agree forward _ _ (x.stop m) (lawful.there first)
      (ahead.trans (lawful.ahead first)) _ _).whenPrepended m _

theorem agreeEval {call call' : String → String → Eval P F T E} (b : Body)
    (agree : ∀ c ∈ b.calls, x.AgreeFrom good excused start (call c.1 c.2) (call' c.1 c.2))
    (forward : ∀ name rule, Forward good onward (call name rule)) :
    x.AgreeFrom good excused start (x.eval limit stack call b) (x.eval limit' stack' call' b) := by
  have ahead : ∀ b, Forward good onward (x.eval limit stack call b) := lawful.forwardEval forward
  induction b using Body.induction with
  | consume token goal => exact AgreeFrom.refl fun p n n' => rfl
  | inOrder parts ih =>
    simp only [eval, evalAllMaps]
    refine lawful.agreeInOrder (fun b member => ih b member fun c called => agree c ?_) (fun b _ => ahead b)
    exact Body.memCallsAll.mpr ⟨b, member, called⟩
  | call name rule => exact agree (name, rule) List.mem_cons_self
  | firstOf branches ih =>
    simp only [eval, evalAllMaps]
    refine agreeFirstOf (fun b member => ih b member fun c called => agree c ?_)
    exact Body.memCallsAll.mpr ⟨b, member, called⟩
  | many body ih => exact lawful.agreeRepeated spared (ih agree) (ahead body) _ _
  | some body ih => exact lawful.agreeSome spared (ih agree) (ahead body)
  | optional body ih => exact agreeOptional (ih agree)
  | notAhead token goal => exact AgreeFrom.refl fun p n n' => rfl
  | sameLine => exact AgreeFrom.refl fun p n n' => rfl
  | mismatch => exact AgreeFrom.refl fun p n n' => rfl
  | raise error => exact AgreeFrom.refl fun p n n' => rfl
  | whenRecording recorded parsed ih => exact ih agree
  | attempt body ih => exact AgreeFrom.refl fun p n n' => rfl

end

theorem agreeFree (table : String → Body) {height higher : Nat} (le : height ≤ higher) (name : String) :
    x.AgreeFrom good (fun _ => False) start (x.free table height name) (x.free table higher name) := by
  induction height generalizing higher name start with
  | zero => exact fun p _ _ n n' => Agrees.ofHalts trivial
  | succ height ih =>
    obtain ⟨higher, rfl⟩ : ∃ k, higher = k + 1 := ⟨higher - 1, by omega⟩
    intro p stands ahead n n'
    refine Agrees.inRule ?_ name p
    exact lawful.agreeEval (fun n ⟨_, limited, _⟩ => nomatch limited) (table name)
      (fun c _ => ih (by omega) c.1) (fun name _ => lawful.forwardFree table height name) p stands ahead n n'

theorem freeHigher {table : String → Body} {height higher : Nat} {name : String} {p : P} (stands : good p)
    {n : Nat} (ends : ¬ (x.free table height name p n).Halts) (le : height ≤ higher) (n' : Nat) :
    x.free table higher name p n' = x.free table height name p n := by
  rcases lawful.agreeFree table le name p stands (Ahead.refl p) n n' ends with same | ⟨_, excuse⟩
  · exact same
  · exact excuse.elim

section
variable {rules : Rules} {invoked : String × String → Prop} {table : String → Body}
  (denote : rules.Denote invoked table)
include denote

theorem agreeGuarded (limit : Option Nat) (depth : Nat) {stack : List (String × Nat)}
    (deep : x.levels ≤ depth + stack.length) {c : String × String} (called : invoked c) :
    x.AgreeFrom good (fun _ => False) start (x.guarded limit rules depth stack c.1 c.2)
      (x.free table depth c.1) := by
  induction depth generalizing stack c start with
  | zero =>
    intro p _ _ n n'
    simp only [guarded, entering]
    split
    · exact Agrees.ofHalts trivial
    · rw [if_pos (by omega)]
      exact Agrees.ofHalts trivial
  | succ depth ih =>
    intro p stands ahead n n'
    simp only [guarded, entering]
    split
    · exact Agrees.ofHalts trivial
    · split
      · exact Agrees.ofHalts trivial
      · refine Agrees.inRule ?_ c.1 p
        rw [← denote.body c called]
        refine lawful.agreeEval (fun n ⟨_, limited, _⟩ => nomatch limited) (rules.body c.2)
          (fun d member => ih ?_ (denote.within c.2 d member))
          (lawful.forwardGuarded limit rules depth _) p stands ahead n n'
        rw [List.length_cons]
        omega

theorem guardedStep (limit : Option Nat) (height : Nat) {c : String × String} (called : invoked c)
    {around : Around P} {depth : Nat} (deep : x.levels ≤ depth + around.length)
    {p : P} (stands : good p) (inside : ∀ e ∈ around, Ahead x.offset e.2 p)
    (inner : ∀ d, x.levels ≤ d + ((c.1, p) :: around).length →
      ∀ e ∈ (table c.1).calls, x.AgreeFrom good (x.Excused limit table height ((c.1, p) :: around)) p
        (x.free table height e.1) (x.guarded limit rules d (x.stack ((c.1, p) :: around)) e.1 e.2))
    (endless : ∀ k ≤ height, (x.free table k c.1 p 0).Halts) (n n' : Nat) :
    Agrees (x.Excused limit table (height + 1) around) (x.free table (height + 1) c.1 p n)
      (x.guarded limit rules depth (x.stack around) c.1 c.2 p n') := by
  intro ends
  by_cases isOpen : (x.stack around).contains (c.1, x.offset p)
  · have refused : x.guarded limit rules depth (x.stack around) c.1 c.2 p n' =
        .fatal (x.reentered (x.stack around) c.1 p) := by
      cases depth <;> exact if_pos isOpen
    rw [refused]
    refine .inr ⟨trivial, .inr (.inr ⟨(c.1, p), enteredHere inside isOpen, height + 1, Nat.le_refl _, ?_⟩)⟩
    rw [lawful.freeHigher stands ends (Nat.le_refl _) 0]
    exact ends
  · by_cases full : x.levels ≤ (x.stack around).length
    · have refused : x.guarded limit rules depth (x.stack around) c.1 c.2 p n' =
          .fatal (x.tooDeep (x.stack around) c.1 p) := by
        cases depth <;> exact (if_neg isOpen).trans (if_pos full)
      rw [refused]
      exact .inr ⟨trivial, .inr (.inl ⟨_, _, _, rfl⟩)⟩
    · have room : (x.stack around).length = around.length := List.length_map _
      cases depth with
      | zero => omega
      | succ depth =>
        have agree : Agrees (x.Excused limit table height ((c.1, p) :: around))
            (x.eval none [(c.1, x.offset p)] (fun name _ => x.free table height name) (table c.1) p n)
            (x.eval limit (x.stack ((c.1, p) :: around))
              (x.guarded limit rules depth (x.stack ((c.1, p) :: around))) (table c.1) p n') :=
          lawful.agreeEval (fun n ⟨_, limited, _⟩ => .inl ⟨by simp [limited], rfl⟩) (table c.1)
            (inner depth (by rw [List.length_cons]; omega))
            (fun name _ => lawful.forwardFree table height name) p stands (Ahead.refl p) n n'
        rw [← denote.body c called] at agree
        have entered : x.guarded limit rules (depth + 1) (x.stack around) c.1 c.2 p n' =
            x.inRule c.1 p (x.eval limit (x.stack ((c.1, p) :: around))
              (x.guarded limit rules depth (x.stack ((c.1, p) :: around))) (rules.body c.2) p n') :=
          (if_neg isOpen).trans (if_neg full)
        rw [entered]
        have body : x.free table (height + 1) c.1 p n = x.inRule c.1 p (x.eval none [(c.1, x.offset p)]
            (fun name _ => x.free table height name) (rules.body c.2) p n) := by
          rw [denote.body c called]
          rfl
        rw [body] at ends ⊢
        rcases agree.inRule c.1 p ends with same | ⟨halts, excuse⟩
        · exact .inl same
        · exact .inr ⟨halts, (excuse.outsideOpened endless).atHigherLevel (Nat.le_succ _)⟩

theorem freeGuarded (limit : Option Nat) (height : Nat) {c : String × String} (called : invoked c)
    {around : Around P} {depth : Nat} (deep : x.levels ≤ depth + around.length)
    {p : P} (stands : good p) (inside : ∀ e ∈ around, Ahead x.offset e.2 p) (n n' : Nat) :
    Agrees (x.Excused limit table height around) (x.free table height c.1 p n)
      (x.guarded limit rules depth (x.stack around) c.1 c.2 p n') := by
  -- on the least height at which the rule ends: below it the rule itself does not end, so it
  -- cannot be what excuses a refusal inside its own body
  induction height using Nat.strong_induction_on generalizing c around depth p n n' with
  | _ height ih =>
    by_cases earlier : ∃ k < height, ¬ (x.free table k c.1 p 0).Halts
    · obtain ⟨k, lower, ends⟩ := earlier
      intro _
      rw [lawful.freeHigher stands ends (Nat.le_of_lt lower) n]
      rcases ih k lower called deep stands inside 0 n' ends with same | ⟨halts, excuse⟩
      · exact .inl same
      · exact .inr ⟨halts, excuse.atHigherLevel (Nat.le_of_lt lower)⟩
    · cases height with
      | zero => exact Agrees.ofHalts trivial
      | succ height =>
        refine lawful.guardedStep denote limit height called deep stands inside ?_ ?_ n n'
        · intro d deep e member q there onward n n'
          have called' := denote.within c.2 e (by rw [denote.body c called]; exact member)
          exact ih height (Nat.lt_succ_self _) called' deep there (Ahead.allEntered inside c.1 onward) n n'
        · intro k low
          by_contra ends
          exact earlier ⟨k, Nat.lt_succ_of_le low, ends⟩

end

end Lawful
end Semantics
end Packrat
