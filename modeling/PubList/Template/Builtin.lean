import PubList.Text.Basic

/-!
# The template for a publication list

The template that is used where none is given: a heading for each group and a bullet for each of
its entries, with a hover text, links and foldable parts where the entry has the fields for them.
-/

namespace PubList.Template

/-- The built-in template. -/
def builtin : Text := List.flatMap String.toList [
  "@\x7bgroup@\n",
  "=== @groupkey@ ===\n",
  "@\x7bentry@\n  * @?summary@<popover placement=\"top\" trigger=\"hover\" ",
  "title=\"@title@\" content=\"@summary@\">@;summary@ **@title@** @author@ (@?year@",
  "@?month@@month@ @;month@@year@@;year@). @?booktitle@In //@booktitle@//.@;booktitle@ ",
  "@?journal@//@journal@//@?volume@ @volume@@?number@ (@number@)@;number@@;volume@ @;journal@ ",
  "@?pages@ pp. @pages@.@;pages@ @?institution@ //@institution@//.@;institution@",
  "@?publisher@ @publisher@.@;publisher@ @?address@ @address@.@;address@@?summary@</popover>",
  "@;summary@ @?doi@<button type=\"link\" size=\"xs\" icon=\"fa fa-book\">",
  "[[http://dx.doi.org/@doi@|DOI]]</button>@;doi@",
  "@?url@\x7b\x7bpublications:pdf:@url@?linkonly\x7d\x7d@;url@ ",
  "@?bibtex@<button collapse=\"b_@globalkey@_@groupid@_@key@\" type=\"link\" size=\"xs\" ",
  "icon=\"fa fa-file-text\">BibTex</button>@;bibtex@",
  "@?abstract@<button collapse=\"a_@globalkey@_@groupid@_@key@\" type=\"link\" size=\"xs\" ",
  "icon=\"fa fa-comment\">Abstract</button>@;abstract@ ",
  "@?bibtex@<collapse id=\"b_@globalkey@_@groupid@_@key@\" collapsed=\"true\"><code bibtex>",
  "@bibtex@</code></collapse>@;bibtex@ ",
  "@?abstract@<collapse id=\"a_@globalkey@_@groupid@_@key@\" collapsed=\"true\">",
  "<well size=\"sm\">@abstract@</well></collapse>@;abstract@\n",
  "@\x7dentry@\n",
  "@\x7dgroup@\n"]

end PubList.Template
