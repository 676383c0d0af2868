import Stencil.Proofs.Json.Buffering
import Stencil.Proofs.Json.Merging
import Stencil.Proofs.Json.Scanning
import Stencil.Template.Build
import Stencil.Template.Decode

/-!
# Template trees from plain values

A text is read with its repeated names in place, a plain value has lost all but the last of them. The
readers of the tree's records each take from a plain value what they take from the document, one
level after the other, whether a record is an object or an array. So a text and its plain value are
the same statement (`Node.ofText_plain`).
-/

namespace Stencil.Template

set_option autoImplicit false

open Json (Follows Kept Row)

section Records
variable {limit : Nat}

theorem Position.follows : Follows (limit + 1) Position.ofJson? Position.ofJson? := by
  refine .record fun r r' hr => ?_
  refine (hr.need (by simp) Json.follows_word?).bind fun line => ?_
  exact (hr.need (by simp) Json.follows_word?).bind fun column => .refl _

theorem Location.follows : Follows (limit + 1) Location.ofJson? Location.ofJson? := by
  refine .record fun r r' hr => ?_
  refine (hr.maybe (by simp) Json.follows_str?).bind fun source => ?_
  refine (hr.need (by simp) Position.follows.mono).bind fun start => ?_
  exact (hr.need (by simp) Position.follows.mono).bind fun finish => .refl _

theorem Path.follows : Follows (limit + 1) Path.ofJson? Path.ofJson? := by
  refine .record fun r r' hr => ?_
  refine (hr.orDefault (by simp) Json.follows_bool? false).bind fun data => ?_
  refine (hr.orDefault (by simp) Json.follows_word? 0).bind fun depth => ?_
  refine (hr.orDefault (by simp) Json.follows_str?.list? []).bind fun parts => ?_
  refine (hr.orDefault (by simp) Json.follows_str? "").bind fun written => ?_
  exact (hr.maybe (by simp) Location.follows.mono).bind fun loc => .refl _

variable {expr expr' : Json → Option Expr} (he : Follows limit expr expr')
include he

theorem Hash.follows_pair : Follows (limit + 1) (Hash.ofJson?.pair expr) (Hash.ofJson?.pair expr') := by
  refine .record fun r r' hr => ?_
  refine (hr.need (by simp) Json.follows_str?).bind fun key => ?_
  refine (hr.need (by simp) he).bind fun value => ?_
  exact (hr.maybe (by simp) Location.follows.mono).bind fun loc => .refl _

theorem Hash.follows : Follows (limit + 1) (Hash.ofJson? expr) (Hash.ofJson? expr') := by
  refine .record fun r r' hr => ?_
  refine (hr.orDefault (by simp) (follows_pair he).mono.list? []).bind fun pairs => ?_
  exact (hr.maybe (by simp) Location.follows.mono).bind fun loc => .refl _

theorem Call.kept {names : List String} {name : String} {r r' : Row} (hr : r.Merged names limit r')
    (hname : name ∈ names) (hparams : "params" ∈ names) (hhash : "hash" ∈ names) :
    Kept (Call.ofRow? expr name r) (Call.ofRow? expr' name r') := by
  refine (hr.need hname he).bind fun path => ?_
  refine (hr.orDefault hparams he.list? []).bind fun params => ?_
  exact (hr.maybe hhash (Hash.follows he).mono).bind fun hash => .refl _

theorem Mustache.follows : Follows (limit + 1) (Mustache.ofJson? expr) (Mustache.ofJson? expr') := by
  refine .record fun r r' hr => ?_
  refine (Call.kept he hr (by simp) (by simp) (by simp)).bind fun call => ?_
  refine (hr.orDefault (by simp) Json.follows_bool? true).bind fun escaped => ?_
  exact (hr.maybe (by simp) Location.follows.mono).bind fun loc => .refl _

end Records

namespace Expr

variable {limit : Nat}

theorem follows_literal? {α : Type} {value : Json → Option α} (hv : Follows limit value value)
    (make : α → Option Location → Expr) :
    Follows (limit + 1) (literal? value make) (literal? value make) := by
  refine .record fun r r' hr => ?_
  refine (hr.need (by simp) hv).bind fun v => ?_
  exact (hr.maybe (by simp) Location.follows.mono).bind fun loc => .refl _

theorem follows_bare? (make : Option Location → Expr) :
    Follows (limit + 1) (bare? make) (bare? make) := by
  refine .record fun r r' hr => ?_
  exact (hr.maybe (by simp) Location.follows.mono).bind fun loc => .refl _

theorem follows_ofTagged? {expr expr' : Json → Option Expr} (he : Follows limit expr expr')
    (kind : String) : Follows (limit + 1) (ofTagged? expr kind) (ofTagged? expr' kind) := by
  unfold ofTagged?
  split
  · exact Path.follows.map Expr.path
  · refine .record fun r r' hr => ?_
    refine (Call.kept he hr (by simp) (by simp) (by simp)).bind fun call => ?_
    exact (hr.maybe (by simp) Location.follows.mono).bind fun loc => .refl _
  · exact follows_literal? Json.follows_str? .str
  · exact follows_literal? Json.follows_num? .num
  · exact follows_literal? Json.follows_bool? .bool
  · exact follows_bare? .undefined
  · exact follows_bare? .null
  · exact fun j v _ _ => .none _

-- A plain value may have fewer levels than its document, so the two budgets are apart: only the
-- second has to cover what is read.
theorem follows_within (budget : Nat) : ∀ limit, Follows limit (within budget) (within limit) := by
  induction budget with
  | zero => exact fun _ _ _ _ _ => .none _
  | succ budget ih =>
    intro limit
    cases limit with
    | zero => exact fun j v _ hd => absurd hd (Nat.not_le_of_gt v.depth_pos)
    | succ limit => exact .tagged (follows_ofTagged? (ih limit))

end Expr

section Bodies
variable {limit : Nat} {node node' : Json → Option Node} (hn : Follows limit node node')
include hn

theorem Program.follows : Follows (limit + 1) (Program.ofJson? node) (Program.ofJson? node') := by
  refine .record fun r r' hr => ?_
  refine (hr.orDefault (by simp) hn.list? []).bind fun body => ?_
  refine (hr.maybe (by simp) Json.follows_str?.list?).bind fun names => ?_
  exact (hr.maybe (by simp) Location.follows.mono).bind fun loc => .refl _

variable {expr expr' : Json → Option Expr} (he : Follows limit expr expr')
include he

theorem Block.follows : Follows (limit + 1) (Block.ofJson? node expr) (Block.ofJson? node' expr') := by
  refine .record fun r r' hr => ?_
  refine (Call.kept he hr (by simp) (by simp) (by simp)).bind fun call => ?_
  refine (hr.maybe (by simp) (Program.follows hn).mono).bind fun program => ?_
  refine (hr.maybe (by simp) (Program.follows hn).mono).bind fun inverse => ?_
  exact (hr.maybe (by simp) Location.follows.mono).bind fun loc => .refl _

theorem Node.follows_ofTagged? (kind : String) :
    Follows (limit + 1) (Node.ofTagged? node expr kind) (Node.ofTagged? node' expr' kind) := by
  unfold Node.ofTagged?
  split
  · exact (Program.follows hn).map Node.program
  · refine .record fun r r' hr => ?_
    refine (hr.need (by simp) Json.follows_str?).bind fun value => ?_
    refine (hr.orDefault (by simp) Json.follows_str? "").bind fun written => ?_
    exact (hr.maybe (by simp) Location.follows.mono).bind fun loc => .refl _
  · refine .record fun r r' hr => ?_
    refine (hr.orDefault (by simp) Json.follows_str? "").bind fun value => ?_
    exact (hr.maybe (by simp) Location.follows.mono).bind fun loc => .refl _
  · exact (Mustache.follows he).map Node.mustache
  · exact (Block.follows hn he).map Node.block
  · refine .record fun r r' hr => ?_
    refine (Call.kept he hr (by simp) (by simp) (by simp)).bind fun call => ?_
    exact (hr.maybe (by simp) Location.follows.mono).bind fun loc => .refl _
  · refine .record fun r r' hr => ?_
    refine (Call.kept he hr (by simp) (by simp) (by simp)).bind fun call => ?_
    refine (hr.maybe (by simp) (Program.follows hn).mono).bind fun main => ?_
    exact (hr.maybe (by simp) Location.follows.mono).bind fun loc => .refl _
  · exact (Mustache.follows he).map Node.decorator
  · exact (Block.follows hn he).map Node.decoratorBlock
  · exact fun j v _ _ => .none _

end Bodies

namespace Node

theorem follows_within (budget : Nat) : ∀ limit, Follows limit (within budget) (within limit) := by
  induction budget with
  | zero => exact fun _ _ _ _ _ => .none _
  | succ budget ih =>
    intro limit
    cases limit with
    | zero => exact fun j v _ hd => absurd hd (Nat.not_le_of_gt v.depth_pos)
    | succ limit =>
      exact .tagged (follows_ofTagged? (ih limit) (Expr.follows_within budget limit))

/-- A statement is read from a document and from its plain value alike. -/
theorem ofJson?_of_merges {j v : Json} {n : Node} (hm : Json.Merges j v) (h : ofJson? j = some n) :
    ofJson? v = some n := by
  rw [ofJson?] at h ⊢
  obtain ⟨⟨kind, body⟩, ht, h⟩ := Option.bind_eq_some_iff.mp h
  obtain ⟨body', ht', hbody, -⟩ := hm.tagged ht
  refine Option.bind_eq_some_iff.mpr ⟨(kind, body'), ht', ?_⟩
  have hfollows := follows_ofTagged? (follows_within body.depth body'.depth)
    (Expr.follows_within body.depth body'.depth) kind
  exact hfollows body body' hbody (Nat.le_succ _) n h

/-- What is read from a text is read from the document of the text. -/
theorem ofJson?_of_ofText {text : String} {n : Node} (h : ofText text = .ok n) :
    ∃ j, Json.ofText Reader.nestingLimit text = .ok j ∧ ofJson? j = some n := by
  unfold ofText Reader.run Reader.check at h
  obtain ⟨⟨n', rest⟩, hread, hend⟩ := ok_of_bind_eq_ok h
  obtain ⟨⟨⟨kind, body⟩, rest'⟩, htagged, hread⟩ := ok_of_bind_eq_ok hread
  obtain ⟨j, hvalue, htag⟩ := Reader.value_of_tagged htagged
  dsimp only at hread hend
  split at hread
  · rename_i hroot
    cases hread
    split at hend
    · rename_i hempty
      cases hend
      refine ⟨j, ?_, Option.bind_eq_some_iff.mpr ⟨_, htag, hroot⟩⟩
      rw [Json.ofText, Reader.run, hvalue]
      exact if_pos hempty
    · cases hend
  · cases hread

/-- A text that is a statement has a plain value that is the same statement, whatever the order of
the value's fields. -/
theorem ofText_plain {text : String} {n : Node} (h : ofText text = .ok n) :
    ∃ j, Json.ofText Reader.nestingLimit text = .ok j ∧ ofJson? j.lastWins = some n ∧
      ∀ v, Json.Merges j v → ofJson? v = some n := by
  obtain ⟨j, hj, hn⟩ := ofJson?_of_ofText h
  exact ⟨j, hj, ofJson?_of_merges j.merges_lastWins hn, fun v hv => ofJson?_of_merges hv hn⟩

/-- A root as an array, in it a comment with an unknown field twice and a text as an array. -/
def mixed : Json := .arr [.str "Program", .arr [
  .obj [("value", .str "a"), ("x", .arr []), ("x", .null), ("type", .str "CommentStatement")],
  .arr [.str "ContentStatement", .str "b"]]]

theorem ofText_mixed :
    let text := mixed.compact ++ "\n"
    let n := root [.comment "a" none, .content "b" "" none]
    ofText text = .ok n ∧ ∃ j, Json.ofText Reader.nestingLimit text = .ok j ∧
      ofJson? j.lastWins = some n ∧ ∀ v, Json.Merges j v → ofJson? v = some n := by
  intro text n
  have hnumbers : Json.NumbersReadBack mixed.numbers := List.forall_mem_nil _
  have h : ofText text = .ok n := by
    rw [ofText, Reader.run, Json.scan_compact hnumbers]
    rfl
  exact ⟨h, ofText_plain h⟩

end Node

end Stencil.Template
