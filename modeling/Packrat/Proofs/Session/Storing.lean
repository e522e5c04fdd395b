import Packrat.Proofs.Reuse
import Packrat.Proofs.Session.Raising
import Packrat.Proofs.Undo

/-! What is put into the cache while rules are open. A rule that is open at an offset is not run there again, so
nothing is stored under its key before it is closed. -/
namespace Packrat

namespace Cache

variable {Key Value : Type} [DecidableEq Key] {c : Cache Key Value} {key other : Key} {value : Value} {n : Nat}

structure Bounded (n : Nat) (c : Cache Key Value) : Prop where
  distinct : (c.entries.map (·.1)).Nodup
  capacity : c.capacity = n
  few : c.entries.length ≤ n

def Balanced (c d : Cache Key Value) : Prop :=
  d.misses + (c.evictions + c.entries.length) = c.misses + (d.evictions + d.entries.length)

theorem findNoneIff : c.find? key = none ↔ key ∉ c.entries.map (·.1) := by
  rw [find?, Option.map_eq_none_iff, List.find?_eq_none, List.mem_map]
  constructor
  · rintro none ⟨e, member, rfl⟩
    exact none e member (decide_eq_true rfl)
  · intro none e member same
    exact none ⟨e, member, of_decide_eq_true same⟩

theorem getMissed (miss : c.find? key = none) : (c.get key).2 = { c with misses := c.misses + 1 } := by
  simp [get, miss]

theorem frontPerm {entries : List (Key × Value)} (distinct : (entries.map (·.1)).Nodup)
    (member : (key, value) ∈ entries) : ((key, value) :: entries.filter fun e => e.1 ≠ key).Perm entries := by
  induction entries with
  | nil => exact nomatch member
  | cons e rest ih =>
    obtain ⟨apart, distinct⟩ := List.nodup_cons.mp distinct
    rcases List.mem_cons.mp member with rfl | inside
    · have others : rest.filter (fun e => e.1 ≠ key) = rest := List.filter_eq_self.mpr fun e member =>
        decide_eq_true fun same => apart (List.mem_map.mpr ⟨e, member, same⟩)
      rw [List.filter_cons_of_neg (by simp), others]
    · have differs : e.1 ≠ key := fun same => apart (List.mem_map.mpr ⟨_, inside, same.symm⟩)
      rw [List.filter_cons, if_pos (decide_eq_true differs)]
      exact (List.Perm.swap _ _ _).trans ((ih distinct inside).cons e)

theorem getFound (h : c.Bounded n) (found : c.find? key = some value) :
    (c.get key).2.entries.Perm c.entries ∧ (c.get key).2.misses = c.misses ∧ (c.get key).2.evictions = c.evictions ∧
      (c.get key).2.capacity = c.capacity := by
  have eq : (c.get key).2 = { c with entries := (key, value) :: c.without key, hits := c.hits + 1 } := by
    simp only [get, found]
  rw [eq]
  exact ⟨frontPerm h.distinct (findListed found), rfl, rfl, rfl⟩

theorem Bounded.afterGet (h : c.Bounded n) (key : Key) : (c.get key).2.Bounded n := by
  cases found : c.find? key with
  | none =>
    rw [getMissed found]
    exact ⟨h.distinct, h.capacity, h.few⟩
  | some value =>
    obtain ⟨moved, _, _, capacity⟩ := getFound h found
    refine ⟨(moved.map _).nodup_iff.mpr h.distinct, capacity.trans h.capacity, ?_⟩
    rw [moved.length_eq]
    exact h.few

theorem getAbsent (h : c.Bounded n) (key : Key) (missing : c.find? other = none) : (c.get key).2.find? other =
    none := by
  rw [findNoneIff] at missing ⊢
  cases found : c.find? key with
  | none =>
    rw [getMissed found]
    exact missing
  | some value =>
    rw [((getFound h found).1.map _).mem_iff]
    exact missing

theorem getBalanced (h : c.Bounded n) (found : c.find? key = some value) : c.Balanced (c.get key).2 := by
  obtain ⟨moved, misses, evictions, _⟩ := getFound h found
  rw [Balanced, misses, evictions, moved.length_eq]

theorem insertAbsent (apart : other ≠ key) (missing : c.find? other = none) : (c.insert key value).find? other =
    none := by
  rw [findNoneIff] at missing ⊢
  intro member
  rw [List.mem_map] at member
  obtain ⟨e, member, rfl⟩ := member
  rcases memInsert member with rfl | old
  · exact apart rfl
  · exact missing (List.mem_map.mpr ⟨e, old, rfl⟩)

section
variable (fresh : c.find? key = none)
include fresh

theorem insertFresh : (c.insert key value).entries =
    (key, value) :: if c.entries.length < c.capacity then c.entries else c.entries.dropLast := by
  simp only [insert, fresh]
  split <;> rfl

theorem Bounded.afterInsert (h : c.Bounded n) (room : 0 < n) : (c.insert key value).Bounded n := by
  have kept : (if c.entries.length < c.capacity then c.entries else c.entries.dropLast).Sublist c.entries := by
    split
    · exact List.Sublist.refl _
    · exact List.dropLast_sublist _
  refine ⟨?_, ?_, ?_⟩
  · rw [insertFresh fresh, List.map_cons, List.nodup_cons]
    exact ⟨fun member => findNoneIff.mp fresh ((kept.map _).subset member), h.distinct.sublist (kept.map _)⟩
  · rw [insertCapacity]
    exact h.capacity
  · rw [insertFresh fresh, List.length_cons, h.capacity]
    split
    · assumption
    · have := h.few
      rw [List.length_dropLast]
      omega

theorem insertBalance (value : Value) (h : c.Bounded n) (room : 0 < n) : (c.insert key value).misses = c.misses ∧
    (c.insert key value).evictions + (c.insert key value).entries.length = c.evictions + c.entries.length + 1 := by
  have few := h.few
  have capacity := h.capacity
  simp only [insert, fresh]
  split
  · exact ⟨rfl, by simp [Nat.add_assoc]⟩
  · refine ⟨rfl, ?_⟩
    simp only [List.length_cons, List.length_dropLast]
    omega

end

omit [DecidableEq Key] in
theorem Balanced.sinceClear {d : Cache Key Value} (balanced : c.clear.Balanced d) :
    d.misses = d.evictions + d.entries.length := by
  rw [Balanced] at balanced
  simpa [clear] using balanced

end Cache

def Task.swallows : Task → Bool
  | .body b => b.swallows
  | .rounds b _ _ => b.swallows
  | .recover _ => false
  | .skip _ => false

namespace Session

variable {env : Setup} {rules : Rules} {depth d n : Nat} {task k : Task} {first s t u : Session} {clean : Prop}

def Opens (s : Session) (key : MemoKey) : Prop := (key.rule, key.offset) ∈ s.ruleStack

structure Stores (clean : Prop) (s t : Session) : Prop where
  missing : ∀ key, s.Opens key → s.memo.find? key = none → t.memo.find? key = none
  balanced : clean → s.memo.Balanced t.memo

def storing (env : Setup) (n : Nat) (clean : Prop) : Invariant :=
  ⟨fun s => s.Sound env ∧ s.memo.Bounded n, fun s t => (growing env).along s t ∧ s.Stores clean t⟩

theorem Stores.sameMemo (memo : t.memo = s.memo) : s.Stores clean t :=
  ⟨fun _ _ missing => memo ▸ missing, fun _ => by rw [memo, Cache.Balanced]⟩

theorem Stores.trans (stack : t.ruleStack = s.ruleStack) (st : s.Stores clean t) (tu : t.Stores clean u) :
    s.Stores clean u where
  missing := fun key isOpen missing => tu.missing key (by rwa [Opens, stack]) (st.missing key isOpen missing)
  balanced := fun h => by
    have early := st.balanced h
    have late := tu.balanced h
    rw [Cache.Balanced] at early late ⊢
    omega

theorem storingQuiet (env : Setup) (n : Nat) (clean : Prop) : (storing env n clean).Quiet env where
  refl := fun s => ⟨(growingUpheld env).refl s, .sameMemo rfl⟩
  trans := by
    rintro s t u ⟨⟨g, st⟩, early⟩ ⟨tu, late⟩
    exact ⟨(growingUpheld env).trans ⟨g, st⟩ tu, early.trans st.stack late⟩
  scan := by
    rintro s goal ⟨sound, bounded⟩
    obtain ⟨after, along⟩ := (growingUpheld env).scan goal sound
    obtain ⟨found, scans, scan⟩ := scanChangesScans env goal s
    rw [scan] at after along ⊢
    exact ⟨⟨after, bounded⟩, along, .sameMemo rfl⟩
  rewound := by
    rintro s t ⟨sound, _⟩ ⟨⟨inner, bounded⟩, step, stores⟩
    obtain ⟨after, along⟩ := (growingUpheld env).rewound sound ⟨inner, step⟩
    have memo := rewindMemo t s.mark
    exact ⟨⟨after, memo ▸ bounded⟩, along, by rw [memo]; exact stores.missing, by rw [memo]; exact stores.balanced⟩
  isolated := fun ⟨sound, bounded⟩ => ⟨(growingUpheld env).isolated sound, bounded⟩
  rejoined := by
    rintro s t ⟨sound, _⟩ ⟨⟨inner, bounded⟩, step, stores⟩
    obtain ⟨after, along⟩ := (growingUpheld env).rejoined sound ⟨inner, step⟩
    exact ⟨⟨after, bounded⟩, along, stores.missing, stores.balanced⟩

theorem storingTaking (env : Setup) (n : Nat) (clean : Prop) (met : Task → Session → Prop) :
    (storing env n clean).Taking env met where
  consume := by
    rintro s token goal _ ⟨sound, bounded⟩
    obtain ⟨after, along⟩ := growsConsume token goal sound
    have memo := consumeMemo env token goal s
    exact ⟨⟨after, memo ▸ bounded⟩, along, .sameMemo memo⟩
  recover := by
    rintro s failure _ ⟨sound, bounded⟩
    obtain ⟨after, along⟩ := growsRecover failure sound
    have memo := recoverMemo env failure s
    exact ⟨⟨after, memo ▸ bounded⟩, along, .sameMemo memo⟩

theorem closedMemo (on : env.config.memoize = true) (name : String) (s t : Session) (verdict : Verdict) :
    ((∃ error, verdict = .fatal error) ∧ (closed env name s (verdict, t)).2.memo = t.memo) ∨
      (∀ error, verdict ≠ .fatal error) ∧ ∃ memo,
        (closed env name s (verdict, t)).2.memo = t.memo.insert (MemoKey.of name s.state) memo := by
  have inserts : ∀ {memo}, remembering env t.memo (MemoKey.of name s.state) memo =
      t.memo.insert (MemoKey.of name s.state) memo := if_pos on
  cases verdict with
  | ok =>
    obtain ⟨memo, eq, _⟩ := closedOkMemo env name s t
    exact .inr ⟨nofun, memo, eq.trans inserts⟩
  | mismatch =>
    obtain ⟨log, eq⟩ := closedMismatch env name s t
    rw [eq]
    exact .inr ⟨nofun, _, inserts⟩
  | fatal error =>
    obtain ⟨log, eq⟩ := closedFatal env name s t error
    rw [eq]
    exact .inl ⟨⟨error, rfl⟩, rfl⟩

section
variable (on : env.config.memoize = true) {name : String}
include on

theorem askedAsGet (s : Session) : s.asked env name = (s.memo.get (MemoKey.of name s.state)).2 := if_pos on

theorem rememberedAsFind (s : Session) : s.remembered env name = s.memo.find? (MemoKey.of name s.state) := if_pos on

theorem openedMemo (s : Session) :
    (opened env name s (s.asked env name)).memo = (s.memo.get (MemoKey.of name s.state)).2 := by
  obtain ⟨log, eq⟩ := openedAsUpdate env name s (s.asked env name)
  rw [eq]
  exact askedAsGet on s

theorem Stores.missingInside (bounded : s.memo.Bounded n) (miss : s.remembered env name = none)
    (stores : (opened env name s (s.asked env name)).Stores clean t) :
    t.memo.find? (MemoKey.of name s.state) = none := by
  rw [rememberedAsFind on] at miss
  refine stores.missing _ ?_ ?_
  · rw [Opens, openedRuleStack]
    exact List.mem_cons_self
  · rw [openedMemo on]
    exact Cache.getAbsent bounded _ miss

theorem storesClosed (room : 0 < n) {verdict : Verdict} (h : (storing env n clean).holds s) (enters : s.Enters env name)
    (miss : s.remembered env name = none) (ends : clean → ∀ error, verdict ≠ .fatal error)
    (step : (storing env n clean).Step (opened env name s (s.asked env name)) t) :
    (storing env n clean).Step s (closed env name s (verdict, t)).2 := by
  obtain ⟨sound, bounded⟩ := h
  obtain ⟨⟨inner, bounded'⟩, step, stores⟩ := step
  obtain ⟨after, along⟩ := growsClosed verdict sound ⟨inner, step⟩
  have fresh := stores.missingInside on bounded miss
  have missing : ∀ key, s.Opens key → s.memo.find? key = none → t.memo.find? key = none := by
    intro key isOpen none
    refine stores.missing key ?_ ?_
    · rw [Opens, openedRuleStack]
      exact List.mem_cons_of_mem _ isOpen
    · rw [openedMemo on]
      exact Cache.getAbsent bounded _ none
  rcases closedMemo on name s t verdict with ⟨⟨error, fatal⟩, eq⟩ | ⟨_, memo, eq⟩
  · refine ⟨⟨after, eq ▸ bounded'⟩, along, eq ▸ missing, fun h => absurd fatal (ends h error)⟩
  · refine ⟨⟨after, eq ▸ bounded'.afterInsert fresh room⟩, along, fun key isOpen none => ?_, fun h => ?_⟩
    · rw [eq]
      refine Cache.insertAbsent ?_ (missing key isOpen none)
      rintro rfl
      -- an open rule is not entered again at its offset
      refine enters.1 ?_
      rw [sound.active]
      exact List.contains_iff_mem.mpr isOpen
    · have inside := stores.balanced h
      obtain ⟨misses, stored⟩ := Cache.insertBalance fresh memo bounded' room
      rw [rememberedAsFind on] at miss
      rw [openedMemo on, Cache.getMissed miss, Cache.Balanced] at inside
      rw [eq, Cache.Balanced, misses]
      simp only at inside
      omega

theorem storesSubrule (room : 0 < n) {body : Action} (h : (storing env n clean).holds s)
    (fresh : s.Enters env name → s.remembered env name = none →
      (storing env n clean).Step (opened env name s (s.asked env name))
        (body (opened env name s (s.asked env name))).2 ∧
        (clean → ∀ error, (body (opened env name s (s.asked env name))).1 ≠ .fatal error)) :
    (storing env n clean).Step s (subrule env name body s).2 := by
  rcases subruleCases env name body s with ⟨_, eq⟩ | ⟨_, _, eq⟩ | ⟨memo, enters, found, eq⟩ | ⟨enters, miss, eq⟩
  · rw [eq]
    exact (storingQuiet env n clean).stepToItself h
  · rw [eq]
    exact (storingQuiet env n clean).stepToItself h
  · obtain ⟨sound, bounded⟩ := h
    have answers : Answers env [] 0 (.body (.call name name)) s name s memo := ⟨0, name, .start, enters, found⟩
    obtain ⟨after, along⟩ := growsAnswer answers sound (s.asked env name) (s.answering env name).log askedSubset
    rw [rememberedAsFind on] at found
    have kept : ((s.answering env name).replay memo).2.memo = (s.memo.get (MemoKey.of name s.state)).2 :=
      (replayMemo _ memo).trans (askedAsGet on s)
    rw [eq]
    refine ⟨⟨after, kept ▸ bounded.afterGet _⟩, along, fun key _ missing => ?_, fun _ => ?_⟩
    · rw [kept]
      exact Cache.getAbsent bounded _ missing
    · rw [kept]
      exact Cache.getBalanced bounded found
  · obtain ⟨step, ends⟩ := fresh enters miss
    rw [eq]
    exact storesClosed on room h enters miss ends step

end

def bodyOf (env : Setup) (rules : Rules) : Nat → String → Action
  | 0, _ => fun s => (.mismatch, s)
  | depth + 1, rule => exec env (invoke env rules depth) (rules.body rule)

theorem invokeAsSubrule (env : Setup) (rules : Rules) (depth : Nat) (name rule : String) :
    invoke env rules depth name rule = subrule env name (bodyOf env rules depth rule) := by
  cases depth <;> rfl

def Clean (env : Setup) (rules : Rules) (depth : Nat) (task : Task) (first : Session) : Prop :=
  ∀ d b t error, Reached env rules depth task first d (.body b) t → (exec env (invoke env rules d) b t).1 ≠ .fatal error

structure RunsRule (env : Setup) (rules : Rules) (depth : Nat) (task : Task) (first : Session) (d : Nat)
    (name rule : String) (t : Session) (r : Verdict × Session) : Prop where
  reached : Reached env rules depth task first d (.body (.call name rule)) t
  enters : t.Enters env name
  miss : t.remembered env name = none
  ends : bodyOf env rules d rule (opened env name t (t.asked env name)) = r

theorem RunsRule.invokeCloses {name rule : String} {r : Verdict × Session}
    (runs : RunsRule env rules depth task first d name rule t r) :
    invoke env rules d name rule t = closed env name t r := by
  rw [invokeAsSubrule, subruleFresh _ runs.enters runs.miss, runs.ends]

section
variable (on : env.config.memoize = true) (room : 0 < n)
include on room

theorem storesInvoke (d : Nat) (name rule : String) :
    (storing env n (Clean env rules depth task first)).Obeys (Reached env rules depth task first d)
      (.body (.call name rule))
      (invoke env rules d name rule) := by
  induction d generalizing name rule with
  | zero =>
    intro s _ h
    refine storesSubrule on room h fun _ miss =>
      ⟨(storingQuiet env n _).stepToItself ?_, fun _ _ fatal => nomatch fatal⟩
    exact ⟨h.1.whenOpened miss, openedMemo on s ▸ h.2.afterGet _⟩
  | succ d ih =>
    intro s reached h
    refine storesSubrule on room h fun enters miss => ?_
    have inside := Reached.enter reached enters miss
    exact ⟨(storingQuiet env n _).execObeys Reached.within (storingTaking env n _ _) ih _ _ inside
      ⟨h.1.whenOpened miss, openedMemo on s ▸ h.2.afterGet _⟩, fun clean error => clean d _ _ error inside⟩

variable (sound : first.Sound env) (bounded : first.memo.Bounded n)
include sound bounded

theorem Reached.memoBounded (reached : Reached env rules depth task first d k t) : t.memo.Bounded n := by
  induction reached with
  | start => exact bounded
  | @within d k t _ u before starts ih =>
    by_cases whole : k.Whole
    · exact ((storingQuiet env n _).startingHolds Reached.within (storingTaking env n _ _) (storesInvoke on room d)
        whole before ⟨before.keepsSound sound, ih⟩ starts).1.2
    · obtain ⟨found, scans, scan⟩ := scanChangesScans env defaultGoal t
      cases starts with
      | skipToken was _ =>
        cases scan.symm.trans was
        exact ih
      | skipUnknown was =>
        cases scan.symm.trans was
        exact ih
      | _ => exact absurd trivial whole
  | @enter d name rule t _ _ _ ih => exact openedMemo on t ▸ ih.afterGet _

theorem Passes.memoBounded (passes : Passes env rules depth task first t) : t.memo.Bounded n := by
  obtain ⟨d, k, u, reached, rfl | rfl⟩ := passes
  · exact reached.memoBounded on room sound bounded
  · have here := reached.memoBounded on room sound bounded
    by_cases whole : k.Whole
    · exact ((storingQuiet env n _).finishingSteps Reached.within (storingTaking env n _ _)
        (storesInvoke on room d) whole
        reached ⟨reached.keepsSound sound, here⟩).1.2
    · cases k with
      | skip fuel => exact (skipQuiet env fuel u).2.2 ▸ here
      | _ => exact absurd trivial whole

theorem RunsRule.resultStored {name rule : String} {verdict : Verdict}
    (runs : RunsRule env rules depth task first d name rule t (verdict, u)) :
    u.memo.find? (MemoKey.of name t.state) = none ∧
      (((∃ error, verdict = .fatal error) ∧ (invoke env rules d name rule t).2.memo = u.memo) ∨
        (∀ error, verdict ≠ .fatal error) ∧ ∃ memo,
          (invoke env rules d name rule t).2.memo = u.memo.insert (MemoKey.of name t.state) memo) := by
  have here := runs.reached.memoBounded on room sound bounded
  have start : (storing env n (Clean env rules depth task first)).holds (opened env name t (t.asked env name)) :=
    ⟨(runs.reached.keepsSound sound).whenOpened runs.miss, openedMemo on t ▸ here.afterGet _⟩
  have step : (storing env n (Clean env rules depth task first)).Step (opened env name t (t.asked env name)) u := by
    have ends := runs.ends
    cases d with
    | zero =>
      cases ends
      exact (storingQuiet env n _).stepToItself start
    | succ d =>
      have ran := (storingQuiet env n _).execObeys Reached.within (storingTaking env n _ _) (storesInvoke on room d) _ _
        (.enter runs.reached runs.enters runs.miss) start
      rwa [show exec env (invoke env rules d) (rules.body rule) _ = _ from ends] at ran
  refine ⟨step.2.2.missingInside on here runs.miss, ?_⟩
  rw [runs.invokeCloses]
  exact closedMemo on name t u verdict

end

def verdictOf (env : Setup) (call : String → String → Action) : Task → Session → Verdict
  | .body b, s => (exec env call b s).1
  | .rounds b fuel done, s => (repeatFrom env (exec env call b) fuel done s).1
  | .recover _, _ => .ok
  | .skip _, _ => .ok

theorem Starts.fatalPassedOn {call : String → String → Action} {k' : Task} {error : ParseError}
    (starts : Starts env call k s k' t) (strict : k.swallows = false) (fatal : verdictOf env call k' t = .fatal error) :
    verdictOf env call k s = .fatal error := by
  have ended : ∀ {b u}, verdictOf env call (.body b) u = .fatal error → ∃ v, exec env call b u = (.fatal error, v) :=
    fun fatal => ⟨_, Prod.ext fatal rfl⟩
  cases starts with
  | first =>
    obtain ⟨v, ran⟩ := ended fatal
    simp only [verdictOf, exec, execAll, inOrder, ran]
  | next matched => simpa only [verdictOf, exec, execAll, inOrder, matched] using fatal
  | branch =>
    obtain ⟨v, ran⟩ := ended fatal
    simp only [verdictOf, exec, execAll, firstOf, ran]
  | other failed => simpa only [verdictOf, exec, execAll, firstOf, failed] using fatal
  | optional =>
    obtain ⟨v, ran⟩ := ended fatal
    simp only [verdictOf, exec, Session.optional, ran]
  | many => exact fatal
  | once =>
    obtain ⟨v, ran⟩ := ended fatal
    simp only [verdictOf, exec, some, ran]
  | more matched moved =>
    simp only [verdictOf, exec, some, matched, moved, Bool.false_eq_true, if_false]
    exact fatal
  | parsed => exact fatal
  | attempt => cases strict
  | round =>
    obtain ⟨v, ran⟩ := ended fatal
    simp only [verdictOf, repeatFrom, roundAsIsolated, ran]
  | again matched moved =>
    simp only [verdictOf, repeatFrom, roundAsIsolated, matched, moved, Bool.false_eq_true, if_false]
    exact fatal
  | recover _ _ => cases fatal
  | recovered failed moved done =>
    simp only [verdictOf, repeatFrom, roundAsIsolated, failed, moved, if_true, done]
    exact fatal
  | skip _ => cases fatal
  | skipToken _ _ => cases fatal
  | skipUnknown _ => cases fatal

theorem Starts.keepsStrict {call : String → String → Action} {k' : Task} (starts : Starts env call k s k' t)
    (strict : k.swallows = false) : k'.swallows = false := by
  have both : ∀ {b rest}, Body.swallowsAny (b :: rest) = false → b.swallows = false ∧ Body.swallowsAny rest = false :=
    fun strict => Bool.or_eq_false_iff.mp strict
  cases starts with
  | first => exact (both strict).1
  | next _ => exact (both strict).2
  | branch => exact (both strict).1
  | other _ => exact (both strict).2
  | attempt => exact nomatch strict
  | recover _ _ => rfl
  | _ => exact strict

theorem Reached.fatalPassedOn (strict : rules.Strict) {error : ParseError}
    (reached : Reached env rules depth task first d k t) (start : task.swallows = false) : k.swallows = false ∧
      (verdictOf env (invoke env rules d) k t = .fatal error →
        verdictOf env (invoke env rules depth) task first = .fatal error) := by
  induction reached with
  | start => exact ⟨start, id⟩
  | within _ starts ih => exact ⟨starts.keepsStrict ih.1, fun fatal => ih.2 (starts.fatalPassedOn ih.1 fatal)⟩
  | @enter d name rule t _ enters miss ih =>
    refine ⟨strict rule, fun fatal => ih.2 ?_⟩
    show (invoke env rules (d + 1) name rule t).1 = _
    rw [invokeAsSubrule, subruleFresh _ enters miss, closedVerdict]
    exact fatal

theorem cleanOf (strict : rules.Strict) {name rule : String}
    (ends : ∀ error, (invoke env rules depth name rule first).1 ≠ .fatal error) :
    Clean env rules depth (.body (.call name rule)) first :=
  fun _ _ _ error reached fatal => ends error ((reached.fatalPassedOn strict rfl).2 fatal)

end Session
end Packrat
