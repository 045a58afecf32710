import ApexOutline.Proofs.Run.Accounts
import ApexOutline.Proofs.Text.Utf8
/-!
# What the hash of a file identifies

The hash in an outline is the digest of the text that was read, encoded again: of the bytes of the file with
every fault replaced (`Text.Mends`). These are the bytes of the file exactly when it holds the encoding of a
text. So the hash identifies such files as far as the digest does, while a file with faults shares its hash with
the file that holds it mended (`content_hash`).
-/

namespace ApexOutline

open Text

/-! ## Digests as they are written -/

namespace Digest

/-- The digits of a digest. -/
def digits : Text :=
  "0123456789abcdef".toList

theorem hexDigit_mem {n : Nat} (h : n < 16) : hexDigit n ∈ digits := by
  have hall : ∀ n < 16, hexDigit n ∈ digits := by decide
  exact hall n h

theorem length_hex (bytes : Bytes) : (hex bytes).length = 2 * bytes.length := by
  simp [hex, List.length_flatMap, Nat.mul_comm]

theorem mem_digits_of_mem_hex {bytes : Bytes} {c : Char} (h : c ∈ hex bytes) : c ∈ digits := by
  obtain ⟨b, -, hc⟩ := List.mem_flatMap.1 h
  have hb := b.toNat_lt
  rcases List.mem_pair.1 hc with rfl | rfl
  · exact hexDigit_mem (by omega)
  · exact hexDigit_mem (by omega)

theorem length_bigEndian (n value : Nat) : (bigEndian n value).length = n := by
  induction n generalizing value with
  | zero => rfl
  | succ n ih => rw [bigEndian, List.length_append, ih, List.length_singleton]

theorem length_ofBytes (message : Bytes) : (ofBytes message).length = 64 := by
  rw [ofBytes, length_hex]
  simp [Words.toList, length_bigEndian]

end Digest

/-! ## The hash of a file -/

namespace Run

theorem exists_outlineFile {tree : FileTree} {path : Path} {bytes : Bytes} (hread : tree.read path = .ok bytes)
    (settings : Settings) :
    ∃ file, outlineFile settings tree path = .ok file ∧
      file.contentHash = Digest.ofBytes (encodeUtf8 (decodeLossy bytes)) := by
  have hsource : tree.readSource path = .ok (decodeLossy bytes) := by
    unfold FileTree.readSource
    rw [hread]
  exact ⟨_, outlineFile_of_readSource hsource, rfl⟩

/-- The hash of a readable file is the digest, in 64 lowercase hexadecimal digits, of its bytes with every fault
replaced. These are the bytes of the file exactly when it holds the encoding of a text, and then the hash is the
digest of the file. Otherwise they are other bytes, and every file that holds those has the same hash. -/
theorem content_hash {tree : FileTree} {path : Path} {bytes : Bytes} (hread : tree.read path = .ok bytes)
    (settings : Settings) :
    ∃ file mended, outlineFile settings tree path = .ok file ∧ (∀ m, Mends bytes m ↔ m = mended) ∧
      file.contentHash = Digest.ofBytes mended ∧
      file.contentHash.length = 64 ∧ (∀ c ∈ file.contentHash, c ∈ Digest.digits) ∧
      (mended = bytes ↔ ∃ t, encodeUtf8 t = bytes) ∧
      ((∃ t, encodeUtf8 t = bytes) → file.contentHash = Digest.ofBytes bytes) ∧
      ∀ (settings' : Settings) (tree' : FileTree) (path' : Path), tree'.read path' = .ok mended →
        ∃ file', outlineFile settings' tree' path' = .ok file' ∧ file'.contentHash = file.contentHash := by
  obtain ⟨file, hfile, hhash⟩ := exists_outlineFile hread settings
  have hwell : encodeUtf8 (decodeLossy bytes) = bytes ↔ ∃ t, encodeUtf8 t = bytes :=
    mends_iff.symm.trans mends_self_iff
  refine ⟨file, encodeUtf8 (decodeLossy bytes), hfile, ?_, hhash, ?_, ?_, hwell, ?_, ?_⟩
  · intro m
    rw [mends_iff, eq_comm]
  · rw [hhash, Digest.length_ofBytes]
  · rw [hhash]
    exact fun c hc => Digest.mem_digits_of_mem_hex hc
  · intro hencoded
    rw [hhash, hwell.2 hencoded]
  · intro settings' tree' path' hread'
    obtain ⟨file', hfile', hhash'⟩ := exists_outlineFile hread' settings'
    exact ⟨file', hfile', by rw [hhash', hhash, decodeLossy_encodeUtf8]⟩

/-- A file with one byte that starts no character, and a file with the replacement character. -/
def strayTree : FileTree where
  entries := [(["A.cls".toList], .file [0xff]), (["B.cls".toList], .file replacement)]
  distinct := by decide
  named := by decide

/-- The two files share their hash, which is not the digest of the first. -/
theorem content_hash_stray :
    ∃ file file', outlineFile {} strayTree "A.cls".toList = .ok file ∧
      outlineFile {} strayTree "B.cls".toList = .ok file' ∧ file'.contentHash = file.contentHash ∧
      file.contentHash ≠ Digest.ofBytes [0xff] := by
  have hreadA : strayTree.read "A.cls".toList = .ok [0xff] := by cbv
  have hreadB : strayTree.read "B.cls".toList = .ok replacement := by cbv
  obtain ⟨file, mended, hfile, hmended, hhash, -, -, -, -, hshared⟩ := content_hash hreadA {}
  obtain rfl : mended = replacement := by
    rw [← mends_iff.1 ((hmended mended).2 rfl)]
    decide +kernel
  obtain ⟨file', hfile', hsame⟩ := hshared {} strayTree _ hreadB
  refine ⟨file, file', hfile, hfile', hsame, ?_⟩
  rw [hhash]
  decide +kernel

end Run

end ApexOutline
