import RunpodShim.Behaviour.CgroupDetection
import RunpodShim.Library.FirstMatch

/-!
# Mount discovery

What `detect_mounts` records, against the lines of a mountinfo file.  The line
buffer takes a longer line in pieces, and each piece is read as if it were a
line.
-/

namespace RunpodShim

open FirstMatch
open LexicalPath
open TextLines

/-- The field `"-"` between the optional fields and the file system. -/
def dash : CString := cstr "-"

/-- The hierarchies that are looked for. -/
inductive MountKind
  | v2
  | v1Memory
deriving DecidableEq

/-- What is recorded for a hierarchy. -/
def RpsCgroupMounts.recorded (mounts : RpsCgroupMounts) :
    MountKind → Option CgroupMount
  | MountKind.v2 => mounts.v2
  | MountKind.v1Memory => mounts.v1Memory

/-! ## The lines of the file -/

/-- A field of a line: no blanks in it, and not the separator. -/
structure IsMountField (field : CString) : Prop where
  nonempty : field ≠ []
  noSpace : 32 ∉ field
  noNewline : newline ∉ field
  noReturn : carriageReturn ∉ field
  noNul : 0 ∉ field
  notDash : field ≠ dash

instance (field : CString) : Decidable (IsMountField field) :=
  decidable_of_iff
    (field ≠ [] ∧ 32 ∉ field ∧ newline ∉ field ∧
      carriageReturn ∉ field ∧ 0 ∉ field ∧ field ≠ dash)
    ⟨fun proper =>
        ⟨proper.1, proper.2.1, proper.2.2.1, proper.2.2.2.1,
          proper.2.2.2.2.1, proper.2.2.2.2.2⟩,
      fun proper =>
        ⟨proper.nonempty, proper.noSpace, proper.noNewline,
          proper.noReturn, proper.noNul, proper.notDash⟩⟩

/-- A line as the kernel writes it. -/
structure MountEntry where
  id : CString
  parent : CString
  device : CString
  root : CString
  mountPoint : CString
  options : CString
  optional : List CString
  fstype : CString
  source : CString
  superOptions : CString
  proper :
    ∀ field,
      field ∈ [id, parent, device, root, mountPoint, options] ++ optional ++
        [fstype, source, superOptions] → IsMountField field

namespace MountEntry

/-- The fields in front of the separator. -/
def front (entry : MountEntry) : List CString :=
  [entry.id, entry.parent, entry.device, entry.root, entry.mountPoint,
    entry.options] ++ entry.optional

/-- The fields behind the separator. -/
def back (entry : MountEntry) : List CString :=
  [entry.fstype, entry.source, entry.superOptions]

theorem back_eq (entry : MountEntry) :
    entry.back = [entry.fstype, entry.source, entry.superOptions] :=
  rfl

/-- The line, without its newline. -/
def text (entry : MountEntry) : CString :=
  entry.id ++ render 32 (entry.front.tail ++ dash :: entry.back)

/-- The root and the mount point of the line. -/
def mount (entry : MountEntry) : CgroupMount :=
  ⟨entry.root, entry.mountPoint⟩

/-- The root and the mount point fit the fields of 512 bytes. -/
def Fits (entry : MountEntry) : Prop :=
  entry.root.length < 512 ∧ entry.mountPoint.length < 512

end MountEntry

/-- The line is one for the hierarchy. -/
def MountKind.Describes (entry : MountEntry) : MountKind → Prop
  | MountKind.v2 => entry.fstype = cstr "cgroup2"
  | MountKind.v1Memory =>
      entry.fstype = cstr "cgroup" ∧
        (cstr "memory" ∈ entry.options.splitOn comma ∨
          cstr "memory" ∈ entry.superOptions.splitOn comma)

/-- Every line of the file is one that the kernel writes. -/
def IsMountinfo (content : List UInt8) : Prop :=
  ∀ line, line ∈ cgroupLines content →
    ∃ entry : MountEntry, entry.text = line

/-! ## What a piece says -/

/-- The fields of a piece behind the separator name the hierarchy. -/
def MountKind.Accepts (options : CString) (after : List CString) :
    MountKind → Prop
  | MountKind.v2 => after[0]? = some (cstr "cgroup2")
  | MountKind.v1Memory =>
      after[0]? = some (cstr "cgroup") ∧
        (cstr "memory" ∈ options.splitOn comma ∨
          cstr "memory" ∈ (after[2]?.getD []).splitOn comma)

/-- A piece of a line that reads as a mount of the hierarchy: its fields up to
the first separator have a fourth and a fifth one that fit, and the ones behind
it name the hierarchy. -/
def ReadsAsMount (kind : MountKind) (piece : CString) (mount : CgroupMount) :
    Prop :=
  ∃ before after, segments 32 piece = before ++ dash :: after ∧
    dash ∉ before ∧
    (before ++ [dash])[3]? = some mount.root ∧
    (before ++ [dash])[4]? = some mount.mountPoint ∧
    kind.Accepts ((before ++ [dash])[5]?.getD []) after ∧
    mount.root.length < 512 ∧ mount.mountPoint.length < 512

section Fields

variable {seen before after tokens : List CString} {kind : MountKind}

/-- The locals of the loop after these fields. -/
def fieldsOf (seen : List CString) : MountFields :=
  ⟨seen[3]?, seen[4]?, seen[5]?, none, none⟩

theorem getElem?_concat_eq (seen : List CString) (token : CString)
    (place : Nat) :
    (seen ++ [token])[place]? =
      if seen.length + 1 = place + 1 then some token else seen[place]? := by
  by_cases here : place < seen.length
  · rw [List.getElem?_append_left here, if_neg (by omega)]
  · rw [List.getElem?_append_right (by omega)]
    by_cases last : seen.length = place
    · rw [if_pos (by omega), last, Nat.sub_self]
      rfl
    · rw [if_neg (by omega), List.getElem?_eq_none (by simp; omega),
        List.getElem?_eq_none (by omega)]

/-- One more field. -/
theorem fieldsOf_concat (seen : List CString) (token : CString) :
    (if seen.length + 1 = 4 then
        { fieldsOf seen with mountRoot := some token }
      else if seen.length + 1 = 5 then
        { fieldsOf seen with mountPoint := some token }
      else if seen.length + 1 = 6 then
        { fieldsOf seen with mountOptions := some token }
      else fieldsOf seen) =
      fieldsOf (seen ++ [token]) := by
  rw [fieldsOf, fieldsOf, getElem?_concat_eq, getElem?_concat_eq,
    getElem?_concat_eq]
  split_ifs
  all_goals first
    | rfl
    | omega

theorem mountFieldsLoop_cons (seen : List CString) (token : CString)
    (rest : List CString) :
    mountFieldsLoop seen.length (token :: rest) (fieldsOf seen) =
      if token = dash then
        { fieldsOf (seen ++ [token]) with
          fstype := rest[0]?, superOptions := rest[2]? }
      else
        mountFieldsLoop (seen ++ [token]).length rest
          (fieldsOf (seen ++ [token])) := by
  rw [mountFieldsLoop]
  simp only
  rw [fieldsOf_concat, List.length_append]
  rfl

/-- The separator ends the loop. -/
theorem mountFieldsLoop_of_dash (noDash : dash ∉ before) :
    mountFieldsLoop seen.length (before ++ dash :: after)
        (fieldsOf seen) =
      { fieldsOf (seen ++ (before ++ [dash])) with
        fstype := after[0]?, superOptions := after[2]? } := by
  induction before generalizing seen with
  | nil =>
      rw [List.nil_append, mountFieldsLoop_cons, if_pos rfl]
      rfl
  | cons token rest inductionHypothesis =>
      obtain ⟨notDash, later⟩ := not_or.mp (mt List.mem_cons.mpr noDash)
      rw [List.cons_append, mountFieldsLoop_cons,
        if_neg (Ne.symm notDash), inductionHypothesis later,
        List.append_assoc]
      rfl

theorem mountFieldsLoop_of_noDash (noDash : dash ∉ tokens) :
    mountFieldsLoop seen.length tokens (fieldsOf seen) =
      fieldsOf (seen ++ tokens) := by
  induction tokens generalizing seen with
  | nil =>
      rw [mountFieldsLoop, List.append_nil]
  | cons token rest inductionHypothesis =>
      obtain ⟨notDash, later⟩ := not_or.mp (mt List.mem_cons.mpr noDash)
      rw [mountFieldsLoop_cons, if_neg (Ne.symm notDash),
        inductionHypothesis later, List.append_assoc]
      rfl

/-- What the loop finds in a piece. -/
def pieceFields (piece : CString) : MountFields :=
  mountFieldsLoop 0 (segments 32 piece) ⟨none, none, none, none, none⟩

theorem pieceFields_of_dash {piece : CString}
    (isPiece : segments 32 piece = before ++ dash :: after)
    (noDash : dash ∉ before) :
    pieceFields piece =
      { fieldsOf (before ++ [dash]) with
        fstype := after[0]?, superOptions := after[2]? } := by
  have loop :
      mountFieldsLoop ([] : List CString).length (before ++ dash :: after)
          (fieldsOf []) =
        { fieldsOf ([] ++ (before ++ [dash])) with
          fstype := after[0]?, superOptions := after[2]? } :=
    mountFieldsLoop_of_dash noDash
  rw [pieceFields, isPiece]
  exact loop

theorem fstype_pieceFields_of_noDash {piece : CString}
    (noDash : dash ∉ segments 32 piece) :
    (pieceFields piece).fstype = none := by
  have loop :
      mountFieldsLoop ([] : List CString).length (segments 32 piece)
          (fieldsOf []) =
        fieldsOf ([] ++ segments 32 piece) :=
    mountFieldsLoop_of_noDash noDash
  rw [pieceFields]
  exact congrArg MountFields.fstype loop

/-- The code's test of the fields behind the separator. -/
def MountKind.accepts (fields : MountFields) : MountKind → Bool
  | MountKind.v2 => decide (fields.fstype = some (cstr "cgroup2"))
  | MountKind.v1Memory =>
      decide
        (fields.fstype = some (cstr "cgroup") ∧
          (controllersInclude (fields.mountOptions.getD [])
              (cstr "memory") = true ∨
            controllersInclude (fields.superOptions.getD [])
              (cstr "memory") = true))

/-- The mount that a piece is taken for. -/
def mountOf (kind : MountKind) (piece : CString) : Option CgroupMount :=
  if kind.accepts (pieceFields piece) then
    (pieceFields piece).mountRoot.bind fun root =>
      (pieceFields piece).mountPoint.bind fun point =>
        copyMounts root point
  else none

theorem copyMount_eq_some_iff {buflen : Nat} {path copy : CString} :
    copyMount buflen path = some copy ↔ path = copy ∧ path.length < buflen := by
  rw [copyMount]
  by_cases fits : path.length < buflen
  · rw [if_pos fits, Option.some.injEq, and_iff_left fits]
  · rw [if_neg fits]
    constructor
    · intro impossible
      cases impossible
    · intro given
      exact absurd given.2 fits

theorem copyMounts_eq_some_iff {root point : CString}
    {mount : CgroupMount} :
    copyMounts root point = some mount ↔
      root = mount.root ∧ point = mount.mountPoint ∧
        mount.root.length < 512 ∧ mount.mountPoint.length < 512 := by
  rw [copyMounts, Option.bind_eq_some_iff]
  simp only [Option.map_eq_some_iff, copyMount_eq_some_iff]
  constructor
  · intro given
    obtain ⟨_, ⟨rfl, shortRoot⟩, _, ⟨rfl, shortPoint⟩, rfl⟩ := given
    exact ⟨rfl, rfl, shortRoot, shortPoint⟩
  · intro given
    obtain ⟨rfl, rfl, shortRoot, shortPoint⟩ := given
    exact ⟨_, ⟨rfl, shortRoot⟩, _, ⟨rfl, shortPoint⟩, rfl⟩

theorem mountOf_eq_some_iff_fields {piece : CString}
    {mount : CgroupMount} :
    mountOf kind piece = some mount ↔
      kind.accepts (pieceFields piece) = true ∧
        (pieceFields piece).mountRoot = some mount.root ∧
        (pieceFields piece).mountPoint = some mount.mountPoint ∧
        mount.root.length < 512 ∧ mount.mountPoint.length < 512 := by
  rw [mountOf]
  by_cases accepted : kind.accepts (pieceFields piece) = true
  · rw [if_pos accepted, and_iff_right accepted]
    simp only [Option.bind_eq_some_iff, copyMounts_eq_some_iff]
    constructor
    · intro given
      obtain ⟨root, isRoot, point, isPoint, rfl, rfl, short⟩ := given
      exact ⟨isRoot, isPoint, short⟩
    · intro given
      obtain ⟨isRoot, isPoint, short⟩ := given
      exact ⟨_, isRoot, _, isPoint, rfl, rfl, short⟩
  · rw [if_neg accepted]
    constructor
    · intro impossible
      cases impossible
    · intro given
      exact absurd given.1 accepted

theorem accepts_eq_true_iff (options : Option CString)
    (root point : Option CString) :
    kind.accepts
        ⟨root, point, options, after[0]?, after[2]?⟩ = true ↔
      kind.Accepts (options.getD []) after := by
  have long : cstr "memory" ≠ [] := by
    decide
  cases kind with
  | v2 =>
      exact decide_eq_true_iff
  | v1Memory =>
      rw [MountKind.accepts, decide_eq_true_iff, controllersInclude_iff long,
        controllersInclude_iff long]
      exact Iff.rfl

theorem accepts_of_fstype_eq_none {fields : MountFields}
    (unknown : fields.fstype = none) : kind.accepts fields = false := by
  cases kind with
  | v2 =>
      rw [MountKind.accepts, unknown]
      rfl
  | v1Memory =>
      rw [MountKind.accepts, unknown]
      exact decide_eq_false fun both => Option.some_ne_none _ both.1.symm

/-- The code takes a piece for the mount that it reads as. -/
theorem mountOf_eq_some_iff {piece : CString} {mount : CgroupMount} :
    mountOf kind piece = some mount ↔ ReadsAsMount kind piece mount := by
  rw [mountOf_eq_some_iff_fields]
  constructor
  · intro given
    obtain ⟨accepted, isRoot, isPoint, short⟩ := given
    by_cases cut : dash ∈ segments 32 piece
    · obtain ⟨before, after, isPiece, noDash⟩ :=
        List.eq_append_cons_of_mem cut
      rw [pieceFields_of_dash isPiece noDash] at accepted isRoot isPoint
      exact
        ⟨before, after, isPiece, noDash, isRoot, isPoint,
          (accepts_eq_true_iff _ _ _).mp accepted, short⟩
    · rw [accepts_of_fstype_eq_none
        (fstype_pieceFields_of_noDash cut)] at accepted
      cases accepted
  · intro reads
    obtain ⟨before, after, isPiece, noDash, isRoot, isPoint, accepted,
      short⟩ := reads
    rw [pieceFields_of_dash isPiece noDash]
    exact
      ⟨(accepts_eq_true_iff _ _ _).mpr accepted, isRoot, isPoint, short⟩

end Fields

/-! ## What is recorded -/

section Recording

variable {kind : MountKind} {mounts : RpsCgroupMounts}

/-- A line is recorded when nothing has been before. -/
theorem recorded_parseMountinfoLine (mounts : RpsCgroupMounts)
    (line : CString) :
    (parseMountinfoLine mounts line).recorded kind =
      (mounts.recorded kind).or (mountOf kind line) := by
  rw [parseMountinfoLine, mountOf, ← pieceFields]
  obtain ⟨root, point, options, fstype, superOptions⟩ := pieceFields line
  cases root with
  | none =>
      simp
  | some root =>
      cases point with
      | none =>
          simp
      | some point =>
          cases fstype with
          | none =>
              rw [accepts_of_fstype_eq_none rfl]
              simp
          | some fstype =>
              cases kind with
              | v2 =>
                  cases already : mounts.v2 with
                  | none =>
                      simp [RpsCgroupMounts.recorded, already,
                        MountKind.accepts]
                  | some mount =>
                      simp [RpsCgroupMounts.recorded, already]
              | v1Memory =>
                  cases already : mounts.v1Memory with
                  | none =>
                      simp [RpsCgroupMounts.recorded, already,
                        MountKind.accepts]
                  | some mount =>
                      simp [RpsCgroupMounts.recorded, already]

theorem recorded_foldl (lines : List CString) (mounts : RpsCgroupMounts) :
    (lines.foldl parseMountinfoLine mounts).recorded kind =
      (mounts.recorded kind).or (lines.findSome? (mountOf kind)) := by
  induction lines generalizing mounts with
  | nil =>
      simp
  | cons line rest inductionHypothesis =>
      rw [List.foldl_cons, inductionHypothesis, recorded_parseMountinfoLine,
        Option.or_assoc, List.findSome?_cons]
      cases mountOf kind line with
      | none =>
          rfl
      | some mount =>
          rfl

/-- The content of `/proc/self/mountinfo`; nothing when it cannot be
opened. -/
def mountinfoContent (world : FileWorld) : List UInt8 :=
  ((rpsProcPath world cgroupPathSize (cstr "/proc/self/mountinfo")).bind
    world.file).getD []

/-- What is recorded comes from the first piece that reads as a mount. -/
theorem recorded_detectedMounts (world : FileWorld) :
    (detectedMounts world).recorded kind =
      (fgetsLines (mountinfoContent world)).findSome? (mountOf kind) := by
  rw [detectedMounts, detectMounts, mountinfoContent]
  cases rpsProcPath world cgroupPathSize (cstr "/proc/self/mountinfo") with
  | none =>
      cases kind with
      | v2 =>
          rfl
      | v1Memory =>
          rfl
  | some path =>
      rw [Option.bind_some, Option.bind_some]
      cases world.file path with
      | none =>
          cases kind with
          | v2 =>
              rfl
          | v1Memory =>
              rfl
      | some content =>
          have folded :
              ((fgetsLines content).foldl parseMountinfoLine
                  ⟨none, none⟩).recorded kind =
                ((RpsCgroupMounts.mk none none).recorded kind).or
                  ((fgetsLines content).findSome? (mountOf kind)) :=
            recorded_foldl (fgetsLines content) ⟨none, none⟩
          have nothing :
              (RpsCgroupMounts.mk none none).recorded kind = none := by
            cases kind with
            | v2 =>
                rfl
            | v1Memory =>
                rfl
          rw [nothing, Option.none_or] at folded
          rw [Option.bind_some, Option.getD_some, ← folded]
          simp only
          generalize (fgetsLines content).foldl parseMountinfoLine
            ⟨none, none⟩ = mounts
          obtain ⟨v2, v1Memory⟩ := mounts
          cases v2 with
          | some mount =>
              rfl
          | none =>
              cases v1Memory with
              | some mount =>
                  rfl
              | none =>
                  rfl

end Recording

/-! ## Pieces -/

/-- The pieces of the lines of a file, as the line buffer takes them. -/
def linePieces (content : List UInt8) : List CString :=
  (cgroupLines content).flatMap (cuts 1023)

section Pieces

/-- A line that `cutLine` leaves as it is. -/
structure IsPlainLine (line : CString) : Prop where
  noNul : 0 ∉ line
  noReturn : carriageReturn ∉ line
  noNewline : newline ∉ line

theorem IsPlainLine.cutLine_eq {line : CString} (plain : IsPlainLine line) :
    cutLine line = line := by
  rw [cutLine_of_plain plain.noNul plain.noReturn,
    takeWhile_of_separator_notMem plain.noNewline]

theorem IsPlainLine.of_infix {line piece : CString}
    (plain : IsPlainLine line) (inside : piece <:+: line) :
    IsPlainLine piece :=
  ⟨fun member => plain.noNul (inside.subset member),
    fun member => plain.noReturn (inside.subset member),
    fun member => plain.noNewline (inside.subset member)⟩

theorem IsPlainLine.cutLine_append {line : CString}
    (plain : IsPlainLine line) : cutLine (line ++ [newline]) = line := by
  have noNul : 0 ∉ line ++ [newline] := by
    rw [List.mem_append, not_or]
    exact ⟨plain.noNul, by decide⟩
  have noReturn : carriageReturn ∉ line ++ [newline] := by
    rw [List.mem_append, not_or]
    exact ⟨plain.noReturn, by decide⟩
  rw [cutLine_of_plain noNul noReturn,
    takeWhile_append_separator plain.noNewline]

section Cutting

variable {room : Nat} {read : CString → Option CgroupMount}

theorem IsPlainLine.map_cutLine_cuts (positive : 0 < room) {line : CString}
    (plain : IsPlainLine line) :
    (cuts room line).map cutLine = cuts room line := by
  have pieces :
      ∀ piece, piece ∈ cuts room line → cutLine piece = piece := by
    intro piece member
    exact (plain.of_infix (infix_of_mem_cuts positive member)).cutLine_eq
  rw [List.map_congr_left pieces, List.map_id']

/-- The newline may end up in a piece of its own, which says nothing. -/
theorem IsPlainLine.findSome?_cuts (positive : 0 < room)
    (silent : read [] = none) {line : CString}
    (plain : IsPlainLine line) :
    ((cuts room (line ++ [newline])).map cutLine).findSome? read =
      (cuts room line).findSome? read := by
  induction length : line.length using Nat.strongRecOn
    generalizing line with
  | ind size inductionHypothesis =>
      have more : line ++ [newline] ≠ [] := by
        simp
      rw [cuts_of_ne_nil positive more, List.map_cons]
      by_cases fits : line.length < room
      · have whole : (line ++ [newline]).length ≤ room := by
          rw [List.length_append]
          exact fits
        rw [List.take_of_length_le whole, List.drop_eq_nil_of_le whole,
          cuts_nil, plain.cutLine_append]
        by_cases empty : line = []
        · rw [empty, cuts_nil]
          simp [silent]
        · rw [cuts_of_length_le positive empty (Nat.le_of_lt fits)]
          rfl
      · have long : room ≤ line.length := Nat.le_of_not_lt fits
        have some : line ≠ [] := by
          intro empty
          rw [empty, List.length_nil] at long
          omega
        have shorter : (line.drop room).length < size := by
          rw [List.length_drop]
          omega
        have plainFirst : IsPlainLine (line.take room) :=
          plain.of_infix (List.take_prefix room line).isInfix
        have plainLater : IsPlainLine (line.drop room) :=
          plain.of_infix (List.drop_suffix room line).isInfix
        have later := inductionHypothesis _ shorter plainLater rfl
        rw [List.take_append_of_le_length long,
          List.drop_append_of_le_length long, cuts_of_ne_nil positive some,
          plainFirst.cutLine_eq, List.findSome?_cons,
          List.findSome?_cons, later]

end Cutting

end Pieces

/-! ## Whole lines -/

namespace MountEntry

variable {kind : MountKind} {mount : CgroupMount}

theorem isMountField_of_mem (entry : MountEntry) {field : CString}
    (member : field ∈ entry.front ∨ field ∈ entry.back) :
    IsMountField field := by
  apply entry.proper
  exact List.mem_append.mpr member

theorem dash_notMem_front (entry : MountEntry) : dash ∉ entry.front :=
  fun member => (entry.isMountField_of_mem (Or.inl member)).notDash rfl

theorem dash_notMem_back (entry : MountEntry) : dash ∉ entry.back :=
  fun member => (entry.isMountField_of_mem (Or.inr member)).notDash rfl

theorem isSegment_of_mem (entry : MountEntry) {token : CString}
    (member : token ∈ entry.front ++ dash :: entry.back) :
    IsSegment 32 token := by
  rcases List.mem_append.mp member with inFront | rest
  · have field := entry.isMountField_of_mem (Or.inl inFront)
    exact ⟨field.nonempty, field.noSpace⟩
  · rcases List.mem_cons.mp rest with isDash | inBack
    · rw [isDash]
      exact ⟨by decide, by decide⟩
    · have field := entry.isMountField_of_mem (Or.inr inBack)
      exact ⟨field.nonempty, field.noSpace⟩

/-- The tokens of a line are its fields. -/
theorem segments_text (entry : MountEntry) :
    segments 32 entry.text = entry.front ++ dash :: entry.back := by
  have rendered :
      segments 32 (render 32 (entry.front ++ dash :: entry.back)) =
        entry.front ++ dash :: entry.back :=
    segments_render fun token member => entry.isSegment_of_mem member
  have first :
      render 32 (entry.front ++ dash :: entry.back) = 32 :: entry.text :=
    render_cons 32 entry.id (entry.front.tail ++ dash :: entry.back)
  rw [first, segments_separator_cons] at rendered
  exact rendered

/-- The separator is in one place only. -/
theorem split_unique (entry : MountEntry) {before after : List CString}
    (split : entry.front ++ dash :: entry.back = before ++ dash :: after) :
    entry.front = before ∧ entry.back = after := by
  obtain ⟨sameFront, _, sameBack⟩ :=
    (List.append_cons_inj_of_notMem entry.dash_notMem_front
      entry.dash_notMem_back).mp split
  exact ⟨sameFront, sameBack⟩

theorem text_ne_nil (entry : MountEntry) : entry.text ≠ [] := by
  intro empty
  have tokens := entry.segments_text
  rw [empty, segments_nil] at tokens
  cases tokens

theorem isPlainLine_of_mem (entry : MountEntry) {token : CString}
    (member : token ∈ entry.front ++ dash :: entry.back) :
    IsPlainLine token := by
  rcases List.mem_append.mp member with inFront | rest
  · have field := entry.isMountField_of_mem (Or.inl inFront)
    exact ⟨field.noNul, field.noReturn, field.noNewline⟩
  · rcases List.mem_cons.mp rest with isDash | inBack
    · rw [isDash]
      exact ⟨by decide, by decide, by decide⟩
    · have field := entry.isMountField_of_mem (Or.inr inBack)
      exact ⟨field.noNul, field.noReturn, field.noNewline⟩

/-- A byte of a line is a space or one of a field. -/
theorem mem_text (entry : MountEntry) {byte : UInt8}
    (member : byte ∈ entry.text) :
    byte = 32 ∨ ∃ token, IsPlainLine token ∧ byte ∈ token := by
  have rendered : byte ∈ render 32 (entry.front ++ dash :: entry.back) :=
    List.mem_cons_of_mem 32 member
  obtain ⟨token, isToken, inside⟩ := List.mem_flatMap.mp rendered
  rcases List.mem_cons.mp inside with isSpace | inToken
  · exact Or.inl isSpace
  · exact Or.inr ⟨token, entry.isPlainLine_of_mem isToken, inToken⟩

theorem isPlainLine_text (entry : MountEntry) : IsPlainLine entry.text := by
  refine ⟨?_, ?_, ?_⟩
  · intro member
    rcases entry.mem_text member with isSpace | ⟨token, plain, inside⟩
    · cases isSpace
    · exact plain.noNul inside
  · intro member
    rcases entry.mem_text member with isSpace | ⟨token, plain, inside⟩
    · cases isSpace
    · exact plain.noReturn inside
  · intro member
    rcases entry.mem_text member with isSpace | ⟨token, plain, inside⟩
    · cases isSpace
    · exact plain.noNewline inside

/-- A whole line reads as what it describes. -/
theorem readsAsMount_text_iff (entry : MountEntry) :
    ReadsAsMount kind entry.text mount ↔
      kind.Describes entry ∧ entry.Fits ∧ entry.mount = mount := by
  have accepts :
      kind.Accepts ((entry.front ++ [dash])[5]?.getD []) entry.back ↔
        kind.Describes entry := by
    cases kind with
    | v2 =>
        exact Option.some_inj
    | v1Memory =>
        exact and_congr Option.some_inj Iff.rfl
  constructor
  · intro reads
    obtain ⟨before, after, isText, noDash, isRoot, isPoint, accepted, shortRoot,
      shortPoint⟩ := reads
    rw [segments_text] at isText
    obtain ⟨rfl, rfl⟩ := entry.split_unique isText
    refine ⟨accepts.mp accepted, ?_⟩
    have sameRoot : entry.root = mount.root := Option.some.inj isRoot
    have samePoint : entry.mountPoint = mount.mountPoint :=
      Option.some.inj isPoint
    rw [Fits, MountEntry.mount, sameRoot, samePoint]
    exact ⟨⟨shortRoot, shortPoint⟩, rfl⟩
  · intro given
    obtain ⟨describes, ⟨shortRoot, shortPoint⟩, rfl⟩ := given
    exact
      ⟨entry.front, entry.back, entry.segments_text,
        entry.dash_notMem_front, rfl, rfl, accepts.mpr describes,
        shortRoot, shortPoint⟩

/-- Lines with the same text have the same fields. -/
theorem fields_of_text_eq {entry other : MountEntry}
    (same : entry.text = other.text) :
    entry.front = other.front ∧ entry.back = other.back := by
  have tokens := entry.segments_text
  rw [same, other.segments_text] at tokens
  obtain ⟨sameFront, sameBack⟩ := other.split_unique tokens
  exact ⟨sameFront.symm, sameBack.symm⟩

/-- A field in front of the separator that two lines with the same text
have. -/
theorem front_of_text_eq {entry other : MountEntry}
    (same : entry.text = other.text) (place : Nat) :
    entry.front[place]? = other.front[place]? :=
  congrArg (fun fields : List CString => fields[place]?)
    (fields_of_text_eq same).1

theorem root_eq_of_text_eq {entry other : MountEntry}
    (same : entry.text = other.text) : entry.root = other.root :=
  Option.some.inj (front_of_text_eq same 3)

/-- Lines with the same text are for the same hierarchies. -/
theorem describes_of_text_eq {entry other : MountEntry}
    (same : entry.text = other.text) (describes : kind.Describes other) :
    kind.Describes entry := by
  have options : entry.options = other.options :=
    Option.some.inj (front_of_text_eq same 5)
  obtain ⟨fstype, _, superOptions⟩ :
      entry.fstype = other.fstype ∧ entry.source = other.source ∧
        entry.superOptions = other.superOptions := by
    simpa [back] using (fields_of_text_eq same).2
  cases kind with
  | v2 =>
      exact fstype.trans describes
  | v1Memory =>
      rw [MountKind.Describes, fstype, options, superOptions]
      exact describes

/-- The fields of a line around a piece that reads as a mount: its first field
may be the end of one of the line's, and the type may go on. -/
theorem fields_of_reads (entry : MountEntry) {start piece rest : CString}
    (whole : entry.text = start ++ (piece ++ rest))
    (reads : ReadsAsMount kind piece mount) :
    ∃ skipped cut opening fields first more,
      entry.front = skipped ++ (cut ++ opening) :: fields ∧
        (segments 32 start = skipped ∨
          segments 32 start = skipped ++ [cut]) ∧
        opening ≠ [] ∧
        (fields ++ [dash])[2]? = some mount.root ∧
        (fields ++ [dash])[3]? = some mount.mountPoint ∧
        entry.fstype = first ++ more ∧ cstr "cgroup" <+: first := by
  obtain ⟨before, after, isPiece, _, isRoot, isPoint, accepted, _⟩ := reads
  cases before with
  | nil =>
      cases isRoot
  | cons opening fields =>
      cases after with
      | nil =>
          cases kind with
          | v2 =>
              cases accepted
          | v1Memory =>
              cases accepted.1
      | cons first later =>
          have startsFirst : cstr "cgroup" <+: first := by
            cases kind with
            | v2 =>
                rw [Option.some.inj accepted]
                decide
            | v1Memory =>
                have isFirst : first = cstr "cgroup" :=
                  Option.some.inj accepted.1
                subst isFirst
                exact List.prefix_refl _
          obtain ⟨skipped, cut, more, back, tokens, isStart⟩ :=
            segments_of_infix whole isPiece
          have grouped :
              entry.front ++ dash :: entry.back =
                (skipped ++ (cut ++ opening) :: fields) ++
                  dash :: (first ++ more) :: back := by
            rw [← segments_text, tokens]
            simp
          obtain ⟨isFront, isBack⟩ := entry.split_unique grouped
          rw [back_eq, List.cons.injEq] at isBack
          have isToken : opening ∈ segments 32 piece := by
            rw [isPiece]
            exact List.mem_cons_self
          have isSegment : IsSegment 32 opening :=
            isSegment_of_mem_segments isToken
          exact
            ⟨skipped, cut, opening, fields, first, more, isFront, isStart,
              isSegment.1, isRoot, isPoint, isBack.1, startsFirst⟩

/-- A piece reads as a mount only when the type of its line begins like one:
the separator in it is that of the line, and the type may be cut. -/
theorem cgroup_prefix_fstype (entry : MountEntry) {piece : CString}
    (inside : piece <:+: entry.text)
    (reads : ReadsAsMount kind piece mount) :
    cstr "cgroup" <+: entry.fstype := by
  obtain ⟨start, rest, whole⟩ := inside
  obtain ⟨_, _, _, _, first, more, _, _, _, _, _, isType, starts⟩ :=
    entry.fields_of_reads
      (whole.symm.trans (List.append_assoc start piece rest)) reads
  rw [isType]
  exact starts.trans (List.prefix_append first more)

/-- A piece at the start of a line reads the root and the mount point of the
line. -/
theorem mount_of_prefix (entry : MountEntry) {piece : CString}
    (starts : piece <+: entry.text)
    (reads : ReadsAsMount kind piece mount) : entry.mount = mount := by
  obtain ⟨rest, begins⟩ := starts
  have whole : entry.text = [] ++ (piece ++ rest) := begins.symm
  obtain ⟨skipped, cut, opening, fields, _, _, isFront, isStart, _, isRoot,
    isPoint, _⟩ := entry.fields_of_reads whole reads
  have nothing : skipped = [] := by
    rw [segments_nil] at isStart
    rcases isStart with same | impossible
    · exact same.symm
    · simp at impossible
  rw [nothing, List.nil_append] at isFront
  have isFields :
      [entry.parent, entry.device, entry.root, entry.mountPoint,
        entry.options] ++ entry.optional = fields :=
    (List.cons.inj isFront).2
  rw [← isFields] at isRoot isPoint
  have sameRoot : entry.root = mount.root := Option.some.inj isRoot
  have samePoint : entry.mountPoint = mount.mountPoint :=
    Option.some.inj isPoint
  rw [MountEntry.mount, sameRoot, samePoint]

/-- A piece that begins behind the first field takes a later field for the
mount point. -/
theorem mountPoint_of_reads_later (entry : MountEntry)
    {start piece rest : CString}
    (whole : entry.text = start ++ (piece ++ rest))
    (behind : entry.id.length < start.length)
    (reads : ReadsAsMount kind piece mount) :
    mount.mountPoint ∈ entry.options :: entry.optional ++ [dash] := by
  obtain ⟨skipped, cut, opening, fields, _, _, isFront, isStart, nonempty, _,
    isPoint, _⟩ := entry.fields_of_reads whole reads
  have isSegment : IsSegment 32 entry.id :=
    entry.isSegment_of_mem List.mem_cons_self
  obtain ⟨later, isBefore⟩ :
      ∃ later, segments 32 start = entry.id :: later := by
    have starts : entry.id ++ [32] <+: entry.text :=
      ⟨_, (List.append_assoc _ _ _).trans rfl⟩
    have covers : entry.id ++ [32] <+: start := by
      apply List.prefix_of_prefix_length_le starts
      · exact ⟨piece ++ rest, whole.symm⟩
      · rw [List.length_append]
        exact behind
    obtain ⟨more, rfl⟩ := covers
    refine ⟨segments 32 more, ?_⟩
    rw [List.append_assoc, List.singleton_append,
      segments_cons_of_boundary isSegment (Or.inr ⟨more, rfl⟩)]
    exact congrArg _ (segments_separator_cons more)
  have isId : (skipped ++ (cut ++ opening) :: fields)[0]? = some entry.id := by
    rw [← isFront]
    rfl
  obtain ⟨first, skippedRest, rfl⟩ : ∃ first rest, skipped = first :: rest := by
    apply List.exists_cons_of_ne_nil
    rintro rfl
    rw [isBefore] at isStart
    rcases isStart with impossible | isCut
    · cases impossible
    · have sameId : cut ++ opening = entry.id := Option.some.inj isId
      rw [List.nil_append, List.cons.injEq] at isCut
      rw [isCut.1] at sameId
      exact nonempty (List.append_right_eq_self.mp sameId)
  have place :
      (entry.front ++ [dash])[skippedRest.length + 5]? =
        some mount.mountPoint := by
    rw [← isPoint, isFront]
    simp [List.getElem?_append]
  have shown :
      (entry.options :: entry.optional ++ [dash])[skippedRest.length]? =
        some mount.mountPoint := place
  exact List.mem_of_getElem? shown

end MountEntry

/-! ## The file -/

section Files

variable {content : List UInt8} {kind : MountKind}

/-- What is recorded was read from whole lines, and when the lines fit the
buffer from the first one for each hierarchy that fits the fields. -/
structure ReadsWholeLines (content : List UInt8)
    (mounts : RpsCgroupMounts) : Prop where
  whole :
    ∀ kind mount, mounts.recorded kind = some mount →
      ∃ entry : MountEntry, entry.text ∈ cgroupLines content ∧
        kind.Describes entry ∧ entry.mount = mount
  first :
    (∀ line, line ∈ cgroupLines content → line.length ≤ 1023) →
      ∀ kind,
        (mounts.recorded kind = none ∧
          ∀ entry : MountEntry, entry.text ∈ cgroupLines content →
            kind.Describes entry → ¬ entry.Fits) ∨
        ∃ front, ∃ entry : MountEntry, ∃ back,
          cgroupLines content = front ++ entry.text :: back ∧
            kind.Describes entry ∧ entry.Fits ∧
            mounts.recorded kind = some entry.mount ∧
            ∀ other : MountEntry, other.text ∈ front →
              kind.Describes other → ¬ other.Fits

/-- The first piece that reads as a mount of a hierarchy is the beginning of a
line for the hierarchy: the whole line, or what the buffer takes of it
first. -/
def FirstMountsBeginLines (content : List UInt8) : Prop :=
  ∀ (kind : MountKind) (before : List CString) (piece : CString)
    (after : List CString) (mount : CgroupMount),
    linePieces content = before ++ piece :: after →
      (∀ other, other ∈ before → ∀ any, ¬ ReadsAsMount kind other any) →
      ReadsAsMount kind piece mount →
        ∃ entry : MountEntry, entry.text ∈ cgroupLines content ∧
          kind.Describes entry ∧ piece <+: entry.text

/-- A file as a running kernel has it: ids are numbers, mount points are
absolute paths, options and optional fields are not paths, and no two lines
have the same root at the same mount point. -/
structure IsUnambiguous (content : List UInt8) : Prop where
  id : ∀ entry : MountEntry, entry.text ∈ cgroupLines content →
    entry.id.length < 1023
  path : ∀ entry : MountEntry, entry.text ∈ cgroupLines content →
    entry.mountPoint.head? = some slash
  noPath : ∀ entry : MountEntry, entry.text ∈ cgroupLines content →
    ∀ field, field ∈ entry.options :: entry.optional →
      field.head? ≠ some slash
  single : ∀ first second : MountEntry,
    first.text ∈ cgroupLines content → second.text ∈ cgroupLines content →
      first.mount = second.mount → first.text = second.text

theorem mountOf_nil : mountOf kind [] = none := by
  cases kind with
  | v2 =>
      rfl
  | v1Memory =>
      rfl

theorem mountOf_eq_none_iff {piece : CString} :
    mountOf kind piece = none ↔
      ∀ mount, ¬ ReadsAsMount kind piece mount := by
  rw [Option.eq_none_iff_forall_ne_some]
  exact forall_congr' fun _ => not_congr mountOf_eq_some_iff

/-- The loop of `fgets` sees the pieces of the lines. -/
theorem findSome?_fgetsLines (conformant : IsMountinfo content) :
    (fgetsLines content).findSome? (mountOf kind) =
      (linePieces content).findSome? (mountOf kind) := by
  have chunks :
      readChunks newline (lineBufferSize - 1) content.length content =
        (rawLines newline content).flatMap (cuts 1023) :=
    readChunks_eq_flatMap (by decide) content
  rw [fgetsLines, chunks, linePieces, cgroupLines, List.map_flatMap,
    List.flatMap_map]
  apply findSome?_flatMap_congr
  intro raw member
  have isLine : raw.takeWhile (· != newline) ∈ cgroupLines content :=
    List.mem_map_of_mem member
  obtain ⟨entry, isText⟩ := conformant _ isLine
  have plain : IsPlainLine (raw.takeWhile (· != newline)) := by
    rw [← isText]
    exact entry.isPlainLine_text
  rcases (areLines_rawLines newline content).mem_cases member with
    unended | ended
  · rw [takeWhile_of_separator_notMem unended] at plain ⊢
    rw [plain.map_cutLine_cuts (by decide)]
  · obtain ⟨front, free, rfl⟩ := ended
    rw [takeWhile_append_separator free] at plain ⊢
    exact plain.findSome?_cuts (by decide) mountOf_nil

/-- Lines that fit the buffer are taken whole. -/
theorem linePieces_of_fits (conformant : IsMountinfo content)
    (fits : ∀ line, line ∈ cgroupLines content → line.length ≤ 1023) :
    linePieces content = cgroupLines content := by
  have whole :
      ∀ line, line ∈ cgroupLines content → cuts 1023 line = [line] := by
    intro line member
    obtain ⟨entry, isText⟩ := conformant line member
    apply cuts_of_length_le (by decide) ?_ (fits line member)
    rw [← isText]
    exact entry.text_ne_nil
  rw [linePieces]
  calc
    (cgroupLines content).flatMap (cuts 1023) =
        (cgroupLines content).flatMap fun line => [line] :=
      List.flatMap_congr whole
    _ = cgroupLines content := List.flatMap_singleton' _

/-- The first line for a hierarchy that fits is recorded, if there is one. -/
theorem recorded_first {mounts : RpsCgroupMounts}
    (conformant : IsMountinfo content)
    (fits : ∀ line, line ∈ cgroupLines content → line.length ≤ 1023)
    (isRecorded :
      mounts.recorded kind =
        (linePieces content).findSome? (mountOf kind)) :
    (mounts.recorded kind = none ∧
      ∀ entry : MountEntry, entry.text ∈ cgroupLines content →
        kind.Describes entry → ¬ entry.Fits) ∨
    ∃ front, ∃ entry : MountEntry, ∃ back,
      cgroupLines content = front ++ entry.text :: back ∧
        kind.Describes entry ∧ entry.Fits ∧
        mounts.recorded kind = some entry.mount ∧
        ∀ other : MountEntry, other.text ∈ front →
          kind.Describes other → ¬ other.Fits := by
  have silent :
      ∀ entry : MountEntry, mountOf kind entry.text = none →
        kind.Describes entry → ¬ entry.Fits := by
    intro entry nothing describes fitsFields
    exact
      mountOf_eq_none_iff.mp nothing entry.mount
        (entry.readsAsMount_text_iff.mpr ⟨describes, fitsFields, rfl⟩)
  rw [linePieces_of_fits conformant fits] at isRecorded
  cases found : mounts.recorded kind with
  | none =>
      rw [found] at isRecorded
      left
      refine ⟨rfl, ?_⟩
      intro entry member
      exact
        silent entry
          (List.findSome?_eq_none_iff.mp isRecorded.symm _ member)
  | some mount =>
      rw [found] at isRecorded
      right
      obtain ⟨front, line, back, split, taken, earlier⟩ :=
        List.findSome?_eq_some_iff.mp isRecorded.symm
      have isLine : line ∈ cgroupLines content := by
        rw [split]
        exact List.mem_append_right front List.mem_cons_self
      obtain ⟨entry, rfl⟩ := conformant line isLine
      obtain ⟨describes, fitsFields, rfl⟩ :=
        entry.readsAsMount_text_iff.mp (mountOf_eq_some_iff.mp taken)
      refine ⟨front, entry, back, split, describes, fitsFields, rfl, ?_⟩
      intro other member
      exact silent other (earlier _ member)

/-- A file that has no line too long for the buffer whose type begins with
`cgroup`. -/
theorem firstMountsBeginLines_of_short (conformant : IsMountinfo content)
    (short : ∀ entry : MountEntry, entry.text ∈ cgroupLines content →
      cstr "cgroup" <+: entry.fstype → entry.text.length ≤ 1023) :
    FirstMountsBeginLines content := by
  intro kind before piece after mount split _ reads
  have isPiece : piece ∈ linePieces content := by
    rw [split]
    exact List.mem_append_right before List.mem_cons_self
  obtain ⟨line, isLine, cutFrom⟩ := List.mem_flatMap.mp isPiece
  obtain ⟨entry, rfl⟩ := conformant line isLine
  have starts : cstr "cgroup" <+: entry.fstype :=
    entry.cgroup_prefix_fstype (infix_of_mem_cuts (by decide) cutFrom) reads
  rw [cuts_of_length_le (by decide) entry.text_ne_nil
    (short entry isLine starts), List.mem_singleton] at cutFrom
  rw [cutFrom] at reads ⊢
  exact
    ⟨entry, isLine, (entry.readsAsMount_text_iff.mp reads).1,
      List.prefix_refl _⟩

/-- In an unambiguous file a piece that reads as the mount of a line for the
hierarchy is the beginning of such a line. -/
theorem IsUnambiguous.begins (unambiguous : IsUnambiguous content)
    {entry whole : MountEntry} {piece : CString}
    (isLine : entry.text ∈ cgroupLines content)
    (cutFrom : piece ∈ cuts 1023 entry.text)
    (reads : ReadsAsMount kind piece whole.mount)
    (isWhole : whole.text ∈ cgroupLines content)
    (describes : kind.Describes whole) :
    kind.Describes entry ∧ piece <+: entry.text := by
  obtain ⟨start, rest, position, where_⟩ :=
    position_of_mem_cuts (by decide) cutFrom
  have isStart : start = [] := by
    rcases where_ with isStart | behind
    · exact isStart
    · have later :=
        entry.mountPoint_of_reads_later position
          (Nat.lt_of_lt_of_le (unambiguous.id entry isLine) behind) reads
      have isPath := unambiguous.path whole isWhole
      rcases List.mem_append.mp later with isField | isDash
      · exact absurd isPath (unambiguous.noPath entry isLine _ isField)
      · have here : whole.mountPoint = dash := List.mem_singleton.mp isDash
        rw [here] at isPath
        cases isPath
  have begins : piece <+: entry.text := by
    rw [position, isStart]
    exact List.prefix_append piece rest
  have sameMount := entry.mount_of_prefix begins reads
  have sameText := unambiguous.single entry whole isLine isWhole sameMount
  exact ⟨MountEntry.describes_of_text_eq sameText describes, begins⟩

end Files

/-- Mount discovery reads whole lines if the first pieces that read as mounts
begin lines for their hierarchies, and in an unambiguous file only if they
do. -/
theorem detectMounts_readsWholeLines {world : FileWorld}
    (conformant : IsMountinfo (mountinfoContent world)) :
    (FirstMountsBeginLines (mountinfoContent world) →
      ReadsWholeLines (mountinfoContent world) (detectedMounts world)) ∧
    (IsUnambiguous (mountinfoContent world) →
      ReadsWholeLines (mountinfoContent world) (detectedMounts world) →
        FirstMountsBeginLines (mountinfoContent world)) := by
  have isRecorded :
      ∀ kind, (detectedMounts world).recorded kind =
        (linePieces (mountinfoContent world)).findSome? (mountOf kind) := by
    intro kind
    rw [recorded_detectedMounts, findSome?_fgetsLines conformant]
  constructor
  · intro begin_
    constructor
    · intro kind mount found
      rw [isRecorded] at found
      obtain ⟨before, piece, after, split, taken, earlier⟩ :=
        List.findSome?_eq_some_iff.mp found
      have reads := mountOf_eq_some_iff.mp taken
      obtain ⟨entry, isLine, describes, begins⟩ :=
        begin_ kind before piece after mount split
          (fun other member => mountOf_eq_none_iff.mp (earlier other member))
          reads
      exact ⟨entry, isLine, describes, entry.mount_of_prefix begins reads⟩
    · intro fits kind
      exact recorded_first conformant fits (isRecorded kind)
  · intro unambiguous reads kind before piece after mount split earlier
      isMount
    have found : (detectedMounts world).recorded kind = some mount := by
      rw [isRecorded]
      apply List.findSome?_eq_some_iff.mpr
      refine
        ⟨before, piece, after, split, mountOf_eq_some_iff.mpr isMount, ?_⟩
      intro other member
      exact mountOf_eq_none_iff.mpr (earlier other member)
    obtain ⟨whole, isWhole, describes, rfl⟩ := reads.whole kind mount found
    have isPiece : piece ∈ linePieces (mountinfoContent world) := by
      rw [split]
      exact List.mem_append_right before List.mem_cons_self
    obtain ⟨line, isLine, cutFrom⟩ := List.mem_flatMap.mp isPiece
    obtain ⟨entry, rfl⟩ := conformant line isLine
    obtain ⟨describesEntry, begins⟩ :=
      unambiguous.begins isLine cutFrom isMount isWhole describes
    exact ⟨entry, isLine, describesEntry, begins⟩

/-- A subtree of 1020 bytes as the root of a version 2 mount. -/
def longRootEntry : MountEntry where
  id := cstr "31"
  parent := cstr "23"
  device := cstr "0:27"
  root := slash :: List.replicate 1019 97
  mountPoint := cstr "/cg"
  options := cstr "rw"
  optional := [cstr "shared:1", cstr "master:2", cstr "propagate_from:3"]
  fstype := cstr "cgroup2"
  source := cstr "cgroup2"
  superOptions := cstr "rw"
  proper := by
    decide +kernel

def longRootWorld : FileWorld :=
  worldOf
    [(cstr "/proc/self/mountinfo", longRootEntry.text ++ [newline])]

/-- The second piece of its line starts inside the root, so that two optional
fields are taken for the root and the mount point. -/
theorem not_readsWholeLines_longRoot :
    IsMountinfo (mountinfoContent longRootWorld) ∧
      (detectedMounts longRootWorld).v2 =
        some ⟨cstr "shared:1", cstr "master:2"⟩ ∧
      ¬ ReadsWholeLines (mountinfoContent longRootWorld)
          (detectedMounts longRootWorld) := by
  have lines :
      cgroupLines (mountinfoContent longRootWorld) =
        [longRootEntry.text] := by
    decide +kernel
  have recorded :
      (detectedMounts longRootWorld).v2 =
        some ⟨cstr "shared:1", cstr "master:2"⟩ := by
    decide +kernel
  refine ⟨?_, recorded, ?_⟩
  · intro line member
    rw [lines, List.mem_singleton] at member
    exact ⟨longRootEntry, member.symm⟩
  · intro reads
    obtain ⟨entry, isLine, _, isMount⟩ :=
      reads.whole MountKind.v2 _ recorded
    rw [lines, List.mem_singleton] at isLine
    have root := MountEntry.root_eq_of_text_eq isLine
    have otherRoot : entry.root = cstr "shared:1" :=
      congrArg CgroupMount.root isMount
    rw [otherRoot] at root
    have different : cstr "shared:1" ≠ longRootEntry.root := by
      decide
    exact different root

/-- The lines of the mountinfo file of `hybridWorld`. -/
def hybridMemoryEntry : MountEntry where
  id := cstr "30"
  parent := cstr "23"
  device := cstr "0:26"
  root := cstr "/"
  mountPoint := cstr "/cg/memory"
  options := cstr "rw"
  optional := []
  fstype := cstr "cgroup"
  source := cstr "cgroup"
  superOptions := cstr "rw,memory"
  proper := by
    decide

def hybridUnifiedEntry : MountEntry where
  id := cstr "31"
  parent := cstr "23"
  device := cstr "0:27"
  root := cstr "/"
  mountPoint := cstr "/cg/unified"
  options := cstr "rw"
  optional := []
  fstype := cstr "cgroup2"
  source := cstr "cgroup2"
  superOptions := cstr "rw"
  proper := by
    decide

theorem cgroupLines_hybrid :
    cgroupLines (mountinfoContent hybridWorld) =
      [hybridMemoryEntry.text, hybridUnifiedEntry.text] := by
  decide +kernel

theorem isUnambiguous_hybrid :
    IsUnambiguous (mountinfoContent hybridWorld) := by
  have either {entry : MountEntry}
      (isLine : entry.text ∈ cgroupLines (mountinfoContent hybridWorld)) :
      entry.text = hybridMemoryEntry.text ∨
        entry.text = hybridUnifiedEntry.text := by
    rw [cgroupLines_hybrid] at isLine
    simpa using isLine
  have front {entry : MountEntry}
      (isLine : entry.text ∈ cgroupLines (mountinfoContent hybridWorld)) :
      entry.front = hybridMemoryEntry.front ∨
        entry.front = hybridUnifiedEntry.front :=
    (either isLine).imp
      (fun same => (MountEntry.fields_of_text_eq same).1)
      (fun same => (MountEntry.fields_of_text_eq same).1)
  constructor
  · intro entry isLine
    have id : entry.front.head? = some entry.id := rfl
    rcases front isLine with same | same
    all_goals
      rw [same] at id
      rw [← Option.some.inj id]
      decide
  · intro entry isLine
    have mountPoint : entry.front[4]? = some entry.mountPoint := rfl
    rcases front isLine with same | same
    all_goals
      rw [same] at mountPoint
      rw [← Option.some.inj mountPoint]
      decide
  · intro entry isLine
    have later : entry.options :: entry.optional = entry.front.drop 5 := rfl
    rw [later]
    rcases front isLine with same | same
    all_goals
      rw [same]
      decide
  · intro first second isFirst isSecond sameMount
    have samePoint : first.front[4]? = second.front[4]? :=
      congrArg (fun mount => some (CgroupMount.mountPoint mount)) sameMount
    rcases either isFirst with textFirst | textFirst
    all_goals
      rcases either isSecond with textSecond | textSecond
      all_goals
        rw [MountEntry.front_of_text_eq textFirst,
          MountEntry.front_of_text_eq textSecond] at samePoint
        first
          | exact textFirst.trans textSecond.symm
          | exact absurd samePoint (by decide)

/-- Its lines are short, so that both of its mounts are read from them. -/
theorem detectMounts_readsWholeLines_hybrid :
    IsMountinfo (mountinfoContent hybridWorld) ∧
      IsUnambiguous (mountinfoContent hybridWorld) ∧
      ReadsWholeLines (mountinfoContent hybridWorld)
        (detectedMounts hybridWorld) := by
  have conformant : IsMountinfo (mountinfoContent hybridWorld) := by
    intro line member
    rw [cgroupLines_hybrid] at member
    rcases List.mem_cons.mp member with isFirst | rest
    · exact ⟨hybridMemoryEntry, isFirst.symm⟩
    · exact ⟨hybridUnifiedEntry, (List.mem_singleton.mp rest).symm⟩
  have short :
      ∀ line, line ∈ cgroupLines (mountinfoContent hybridWorld) →
        line.length ≤ 1023 := by
    rw [cgroupLines_hybrid]
    decide
  have begin_ :=
    firstMountsBeginLines_of_short conformant
      fun entry isLine _ => short _ isLine
  exact
    ⟨conformant, isUnambiguous_hybrid,
      (detectMounts_readsWholeLines conformant).1 begin_⟩

end RunpodShim
