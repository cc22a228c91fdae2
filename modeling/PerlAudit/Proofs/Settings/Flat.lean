import PerlAudit.Proofs.Files.Flat
import PerlAudit.Settings.Load

namespace PerlAudit.Settings

open Text Files Disk

/-- A path that can be resolved is resolved, unless it ends in a loop. -/
theorem resolve_of_real {disk : Disk} {path real : Text} (resolved : disk.real path = .ok real)
    (compact : Path.compact real = real) (named : nameFlaw? real = none)
    (ends : disk.find real ≠ .error .linkLoop) : resolve disk path = .ok real := by
  have found : disk.realPath path = .ok real := by rw [realPath, resolved]; rfl
  simp only [resolve, found, bind, Except.bind, compact, named]
  split
  · rename_i flawed
    cases flawed
  · rename_i loop
    exact absurd loop ends
  · rfl

section Flat

variable {entries : List (Text × Node)} {path name real : Text}

/-- The directory is resolved to itself. -/
theorem resolve_top : resolve (.flat entries) "/" = .ok "/" := by
  have resolved : (flat entries).real "/" = .ok (Path.absolute "/" _) :=
    real_flat_top (by decide)
  have spelled : Path.absolute "/" "/" = "/" := by decide +kernel
  have top : (flat entries).find "/" = .ok ([], .directory entries) := by
    refine find_flat_top ⟨?_, ?_, ?_⟩ ?_
    all_goals decide +kernel
  rw [show Path.isAbsolute "/" = true by decide] at resolved
  refine resolve_of_real (resolved.trans (congrArg _ spelled)) (by decide +kernel) (by decide) ?_
  simp [top]

/-- A name in the directory is resolved to the path of its entry. -/
theorem resolve_entry (lead : List Text) (files : entries.all (·.2.isFile))
    (still : lead.all stays) (spelled : Path.names path = lead ++ [name])
    (relative : Path.isAbsolute path = false) (entry : IsEntry name)
    (direct : (Path.names (respell (Path.join [] name))).dropLast.all stays)
    (nameable : nameFlaw? (Path.join [] name) = none)
    (absolute : Path.absolute "/" (Path.join [] name) = real)
    (compact : Path.compact real = real) (named : nameFlaw? real = none)
    (ends : (flat entries).find real ≠ .error .linkLoop) :
    resolve (.flat entries) path = .ok real := by
  have resolved : (flat entries).real path = .ok real := by
    rw [real_flat lead files still spelled entry]
    all_goals rw [relative]
    exacts [congrArg _ absolute, nameable, direct]
  exact resolve_of_real resolved compact named ends

end Flat

/-- On a machine without files the settings are the defaults. -/
theorem load_bare {host : Host} (bare : host.disk = ⟨.empty, "/", [], []⟩) :
    load host [] "." = .ok (.default "/") := by
  have disk : host.disk = flat [] := bare
  have entry : IsEntry fileName := by
    refine ⟨⟨?_, ?_, ?_⟩, ?_, ?_, ?_⟩
    all_goals decide +kernel
  have missing : host.disk.find "/.perlstrict.yml" = .error .noEntry := by
    rw [disk]
    refine find_flat_missing [""] ⟨?_, ?_, ?_⟩ ?_ ?_ entry rfl
    all_goals decide +kernel
  have located : locate host "." = .ok "/.perlstrict.yml" := by
    have path : expandHome host (Path.compact ".") = .ok "." := by
      have plain : Path.names (Path.compact ".") = [ofString "."] := by decide +kernel
      rw [expandHome, plain]
      rfl
    have looked : lookAt host.disk "." = .ok (some (.directory [])) := by
      have top : host.disk.find "." = .ok ([], .directory []) := by
        rw [disk]
        refine find_flat_top ⟨?_, ?_, ?_⟩ ?_
        all_goals decide +kernel
      rw [lookAt, top]
    have resolved : resolve host.disk (Path.join "." fileName) = .ok "/.perlstrict.yml" := by
      rw [disk] at missing ⊢
      refine resolve_entry ["."] rfl rfl ?_ ?_ entry ?_ ?_ ?_ ?_ ?_ ?_
      case refine_8 => simp [missing, Errno.noEntry, Errno.linkLoop]
      all_goals decide +kernel
    simp only [locate, path, looked, bind, Except.bind]
    exact resolved
  have rooted : resolve host.disk (Path.parent "/.perlstrict.yml") = .ok "/" := by
    rw [disk, show Path.parent "/.perlstrict.yml" = "/" by decide +kernel]
    exact resolve_top
  have looked : lookAt host.disk "/.perlstrict.yml" = .ok none := by
    rw [lookAt, missing]
    rfl
  simp only [load, located, rooted, looked, bind, Except.bind]
  rfl

end PerlAudit.Settings
