import TabletDrain.Proofs.Text.Split
import TabletDrain.Proofs.Upgrade.Rank

/-! A change of images is judged by what stands after the first colon of each reference. That is the
tag, unless the repository names the port of a registry: then the port is read where a version should
stand, so that a slow shutdown is asked for whatever the tags are, and no change is refused. -/
namespace TabletDrain.Upgrade

/-- A repository and a tag with a colon between them. -/
structure IsTagged (image repository tag : String) : Prop where
  eq_append : image = repository ++ ":" ++ tag
  repository_ne : repository ≠ ""
  tag_ne : tag ≠ ""
  noColon : ':' ∉ tag.toList
  noSlash : '/' ∉ tag.toList

/-- No colon stands behind the last slash. -/
def IsUntagged (image : String) : Prop :=
  ∀ before after, image = before ++ ":" ++ after → '/' ∈ after.toList

/-- The reference begins with the host of a registry and a port. -/
def NamesPort (image : String) : Prop :=
  ∃ host port path, image = host ++ ":" ++ (port ++ "/" ++ path) ∧ ':' ∉ host.toList ∧
    ∀ c ∈ port.toList, c.isDigit = true

section References

variable {current desired before after before' after' : String}

theorem imagesNeedSlowShutdown_of_colons (split : current = before ++ ":" ++ after)
    (isFirst : ':' ∉ before.toList) (split' : desired = before' ++ ":" ++ after')
    (isFirst' : ':' ∉ before'.toList) (different : current ≠ desired) :
    imagesNeedSlowShutdown current desired = needsSlowShutdown after after' := by
  have cut {image front back : String} (split : image = front ++ ":" ++ back)
      (isFirst : ':' ∉ front.toList) :
      image.isEmpty = false ∧ Text.splitFirst ':' image.toList = some (front.toList, back.toList) := by
    subst split
    constructor
    · simp
    · rw [String.toList_append, String.toList_append, List.append_assoc]
      exact Text.splitFirst_append isFirst
  obtain ⟨some, found⟩ := cut split isFirst
  obtain ⟨some', found'⟩ := cut split' isFirst'
  simp [imagesNeedSlowShutdown, some, some', different, found, found']

theorem imagesNeedSlowShutdown_of_no_colon
    (none : ':' ∉ current.toList ∨ ':' ∉ desired.toList) :
    imagesNeedSlowShutdown current desired = .ok false := by
  unfold imagesNeedSlowShutdown
  split
  · rfl
  · rcases none with first | second
    · rw [Text.splitFirst_eq_none_iff.mpr first]
    · rw [Text.splitFirst_eq_none_iff.mpr second]
      cases Text.splitFirst ':' current.toList <;> rfl

theorem exists_first_colon (colon : ':' ∈ current.toList) :
    ∃ before after, current = before ++ ":" ++ after ∧ ':' ∉ before.toList := by
  have found := mt Text.splitFirst_eq_none_iff.mp (not_not.mpr colon)
  obtain ⟨⟨before, after⟩, split⟩ := Option.ne_none_iff_exists'.mp found
  obtain ⟨whole, isFirst⟩ := Text.of_splitFirst split
  refine ⟨String.ofList before, String.ofList after, ?_, by simpa using isFirst⟩
  rw [← String.toList_inj, whole]
  simp

/-- The slash after the port comes where a version has its first point. -/
theorem not_opens_port {port path : String} (digits : ∀ c ∈ port.toList, c.isDigit = true)
    (version : Version) : ¬version.Opens (port ++ "/" ++ path).toList := by
  rintro ⟨major, minor, patch, rest, text, part, _⟩
  rw [String.toList_append, String.toList_append, List.append_assoc] at text
  have slash : Version.digitRun (port.toList ++ '/' :: path.toList) = (port.toList, '/' :: path.toList) :=
    Version.digitRun_append (fun c member => Version.isDecimalDigit_of_isDigit (digits c member)) (by decide)
  have point : Version.digitRun (major ++ '.' :: (minor ++ '.' :: (patch ++ rest))) =
      (major, '.' :: (minor ++ '.' :: (patch ++ rest))) :=
    Version.digitRun_append part.isRun.isDigit (by decide)
  simp [← text, slash] at point

theorem NamesPort.exists_first_colon (names : NamesPort current) :
    ∃ before after, current = before ++ ":" ++ after ∧ ':' ∉ before.toList ∧
      ∀ version : Version, ¬version.Opens after.toList := by
  obtain ⟨host, port, path, split, isFirst, digits⟩ := names
  exact ⟨host, port ++ "/" ++ path, split, isFirst, not_opens_port digits⟩

theorem imagesNeedSlowShutdown_of_port
    (port : NamesPort current ∧ ':' ∈ desired.toList ∨ ':' ∈ current.toList ∧ NamesPort desired)
    (different : current ≠ desired) : imagesNeedSlowShutdown current desired = .ok true := by
  rcases port with ⟨names, colon⟩ | ⟨colon, names⟩
  · obtain ⟨before, after, split, isFirst, none⟩ := names.exists_first_colon
    obtain ⟨before', after', split', isFirst'⟩ := exists_first_colon colon
    rw [imagesNeedSlowShutdown_of_colons split isFirst split' isFirst' different]
    exact needsSlowShutdown_of_no_version (.inl none)
  · obtain ⟨before, after, split, isFirst⟩ := exists_first_colon colon
    obtain ⟨before', after', split', isFirst', none⟩ := names.exists_first_colon
    rw [imagesNeedSlowShutdown_of_colons split isFirst split' isFirst' different]
    exact needsSlowShutdown_of_no_version (.inr none)

end References

/-- Tags are judged where neither repository holds a colon. -/
theorem first_colon_decides (current desired : String) :
    (∀ before after before' after', current = before ++ ":" ++ after → ':' ∉ before.toList →
      desired = before' ++ ":" ++ after' → ':' ∉ before'.toList → current ≠ desired →
        imagesNeedSlowShutdown current desired = needsSlowShutdown after after') ∧
    (∀ repository tag repository' tag', IsTagged current repository tag →
      IsTagged desired repository' tag' → ':' ∉ repository.toList → ':' ∉ repository'.toList →
        current ≠ desired →
        imagesNeedSlowShutdown current desired = needsSlowShutdown tag tag') ∧
    (':' ∉ current.toList ∨ ':' ∉ desired.toList →
      imagesNeedSlowShutdown current desired = .ok false) ∧
    (NamesPort current ∧ ':' ∈ desired.toList ∨ ':' ∈ current.toList ∧ NamesPort desired →
      current ≠ desired → imagesNeedSlowShutdown current desired = .ok true) := by
  refine ⟨fun _ _ _ _ => imagesNeedSlowShutdown_of_colons, ?_, imagesNeedSlowShutdown_of_no_colon,
    imagesNeedSlowShutdown_of_port⟩
  intro repository tag repository' tag' tagged tagged' plain plain' different
  exact imagesNeedSlowShutdown_of_colons tagged.eq_append plain tagged'.eq_append plain' different

theorem first_colon_decides_sample :
    IsTagged "docker.io/library/mysql:8.0.36" "docker.io/library/mysql" "8.0.36" ∧
      IsTagged "percona:8.0.30-22" "percona" "8.0.30-22" ∧ Refused "8.0.36" "8.0.30-22" ∧
      imagesNeedSlowShutdown "docker.io/library/mysql:8.0.36" "percona:8.0.30-22" =
        needsSlowShutdown "8.0.36" "8.0.30-22" ∧
      NamesPort "registry:5000/mysql:8.0.36" ∧
      imagesNeedSlowShutdown "percona:8.0.30-22" "registry:5000/mysql:8.0.36" = .ok true ∧
      imagesNeedSlowShutdown "mysql" "percona:8.0.30-22" = .ok false := by
  have tagged : IsTagged "docker.io/library/mysql:8.0.36" "docker.io/library/mysql" "8.0.36" :=
    ⟨by decide +kernel, by decide, by decide, by decide, by decide⟩
  have tagged' : IsTagged "percona:8.0.30-22" "percona" "8.0.30-22" :=
    ⟨by decide +kernel, by decide, by decide, by decide, by decide⟩
  have port : NamesPort "registry:5000/mysql:8.0.36" :=
    ⟨"registry", "5000", "mysql:8.0.36", by decide +kernel, by decide, List.all_eq_true.mp (by decide)⟩
  have refused : Refused "8.0.36" "8.0.30-22" :=
    ⟨"cannot downgrade patch version from 8.0.36 to 8.0.30-22", by decide +kernel⟩
  refine ⟨tagged, tagged', refused, ?_, port, ?_, ?_⟩
  · exact (first_colon_decides _ _).2.1 _ _ _ _ tagged tagged' (by decide) (by decide) (by decide)
  · exact (first_colon_decides _ _).2.2.2 (.inr ⟨by decide, port⟩) (by decide)
  · exact (first_colon_decides _ _).2.2.1 (.inl (by decide))

/-- A move down within one registry is to be refused, and a reference without a tag needs nothing; with
a port in front, both ask for a slow shutdown. -/
theorem port_read_for_tag :
    let current := "registry:5000/mysql:8.0.30"
    let desired := "registry:5000/mysql:8.0.20"
    let untagged := "registry:5000/mysql"
    IsTagged current "registry:5000/mysql" "8.0.30" ∧ IsTagged desired "registry:5000/mysql" "8.0.20" ∧
      current ≠ desired ∧ Refused "8.0.30" "8.0.20" ∧
      imagesNeedSlowShutdown current desired ≠ needsSlowShutdown "8.0.30" "8.0.20" ∧
      imagesNeedSlowShutdown current desired = .ok true ∧
      IsUntagged untagged ∧ imagesNeedSlowShutdown untagged desired = .ok true := by
  intro current desired untagged
  have names (rest : String) : NamesPort ("registry:5000/mysql" ++ rest) :=
    ⟨"registry", "5000", "mysql" ++ rest, by simp [← String.toList_inj], by decide,
      List.all_eq_true.mp (by decide)⟩
  have different : current ≠ desired := by decide
  have slow : imagesNeedSlowShutdown current desired = .ok true :=
    imagesNeedSlowShutdown_of_port (.inl ⟨names ":8.0.30", by decide⟩) different
  have slow' : imagesNeedSlowShutdown untagged desired = .ok true :=
    imagesNeedSlowShutdown_of_port (.inr ⟨by decide, names ":8.0.20"⟩) (by decide)
  have verdict : needsSlowShutdown "8.0.30" "8.0.20" =
      .error (.downgrade "cannot downgrade patch version from 8.0.30 to 8.0.20") := by
    decide +kernel
  refine ⟨⟨by decide +kernel, by decide, by decide, by decide, by decide⟩,
    ⟨by decide +kernel, by decide, by decide, by decide, by decide⟩, different, ⟨_, verdict⟩, ?_, slow,
    fun before after split => ?_, slow'⟩
  · rw [slow, verdict]
    simp
  · have cut : untagged.toList = before.toList ++ ':' :: after.toList := by
      rw [split, String.toList_append, String.toList_append, List.append_assoc]
      rfl
    have once : untagged.toList.count ':' = 1 := by decide
    have isFirst : ':' ∉ before.toList := by
      rw [cut, List.count_append, List.count_cons_self] at once
      exact List.count_eq_zero.mp (by omega)
    have read : Text.splitFirst ':' untagged.toList = some (before.toList, after.toList) := by
      rw [cut]
      exact Text.splitFirst_append isFirst
    have same : some ("registry".toList, "5000/mysql".toList) = some (before.toList, after.toList) :=
      (by decide : Text.splitFirst ':' untagged.toList = _).symm.trans read
    simp only [Option.some.injEq, Prod.mk.injEq] at same
    rw [← same.2]
    decide

end TabletDrain.Upgrade
