import VisualNovel.Command.Basic
import VisualNovel.Lint.Resource

/-!
# Reviewing novel files

A review checks the novel files of a directory, or a single one: whether each is a novel, what is
wrong with it, and whether the files that it declares are there. All of it is written to the
standard error output.

The tool that reviews novels has other commands, which hand their work over to cargo. What comes of
a call of cargo is given to `Review.run` from outside.
-/

namespace VisualNovel

/-- What was found in a file. -/
inductive FileReview where
  /-- The file is no novel, for the reason that the message gives. -/
  | refused (path message : String)
  /-- What is wrong with the novel, and the resources that are missing. -/
  | novel (path : String) (report : Report) (missing : List Resource)

namespace FileReview

/-- The line that is written as soon as a file is refused. -/
def refusal? : FileReview → Option String
  | refused path message => some s!"[ERROR] {path}: {message}"
  | novel .. => none

/-- What is wrong with the novel. -/
def report : FileReview → Report
  | refused .. => []
  | novel _ report _ => report

/-- A line for each resource that is missing. -/
def missingLines : FileReview → List String
  | refused .. => []
  | novel path _ missing => missing.map fun resource =>
    s!"[WARN] {path}: 资源文件不存在 [{resource.kind.describe}] {resource.address}"

/-- The resources of a novel that are missing in a directory. -/
def missingFrom (disk : Disk) (directory : String) (novel : Novel) : List Resource :=
  (novel.resources.filter (·.isLocal)).filter fun resource =>
    !disk.contains (Path.join directory resource.address)

/-- Reviews a file. -/
def ofFile (disk : Disk) (path : String) : FileReview :=
  match disk.readText path with
  | .error e => .refused path s!"无法读取文件 - {e.message}"
  | .ok text =>
    match Novel.ofText text with
    | .error e => .refused path e.message
    | .ok content =>
      .novel path content.analyze (missingFrom disk ((Path.parent? path).getD ".") content)

end FileReview

namespace Review

/-- How many errors there are. Each file that is refused counts as one. -/
def errorCount (reviews : List FileReview) : Nat :=
  (reviews.filterMap (·.refusal?)).length + Report.errorCount (reviews.flatMap (·.report))

/-- How many warnings there are. Each resource that is missing counts as one. -/
def warnCount (reviews : List FileReview) : Nat :=
  Report.warnCount (reviews.flatMap (·.report)) + (reviews.flatMap (·.missingLines)).length

/-- The last line of a review. -/
def verdict (errors warnings : Nat) : String :=
  if 0 < errors then s!"❌ {errors} 个错误, {warnings} 个警告"
  else if 0 < warnings then s!"⚠️  0 个错误, {warnings} 个警告"
  else "✅ 检查通过，无错误"

/-- The line between what is written on the way and the results. -/
def separator : String := String.ofList (List.replicate 53 '─')

/-- The lines of a review. -/
def lines (reviews : List FileReview) : List String :=
  [s!"==> 检查 {reviews.length} 个作品文件...", ""]
    ++ reviews.filterMap (·.refusal?)
    ++ [separator, s!"检查完成: {reviews.length} 个作品", ""]
    ++ (reviews.flatMap (·.report)).map (·.toText)
    ++ reviews.flatMap (·.missingLines)
    ++ ["", verdict (errorCount reviews) (warnCount reviews)]

/-- The outcome of a command that fails, after the lines that it has written. -/
def failure (written : List String) (message : String) : Outcome :=
  { code := 1, complaints := Text.lines (written ++ [s!"xtask error: {message}"]) }

/-- Reviews files. -/
def ofFiles (disk : Disk) (paths : List String) : Outcome :=
  if paths.isEmpty then { complaints := Text.line "未找到作品文件（.json）" }
  else
    let reviews := paths.map (FileReview.ofFile disk)
    if 0 < errorCount reviews then failure (lines reviews) "作品检查发现错误"
    else { complaints := Text.lines (lines reviews) }

/-- Where novels are looked for when no path is given. -/
def defaultPath : String := "host-cli/assets"

/-- The paths of the novel files in a directory and in those inside it, in ascending order. -/
def novelFiles (disk : Disk) (path : String) (directory : Place) : List String :=
  let files := (disk.filesIn directory).filter fun names =>
    (names.getLast?.bind Path.extension?) == some "json"
  files.map fun names => names.foldl Path.join path

/-- Reviews the file at a path, or the files in the directory there. -/
def ofPath (disk : Disk) (given : Option String) : Outcome :=
  let path := given.getD defaultPath
  match disk.find path with
  | .ok (_, .file _) => ofFiles disk [path]
  | .ok (directory, .directory) => ofFiles disk (novelFiles disk path directory)
  | .error _ =>
    failure [] <| if given.isNone then
      s!"默认作品目录不存在: {path}\n请在 workspace 根目录运行，或指定作品路径"
    else s!"路径不存在: {path}"

/-! ## Work for cargo -/

/-- What comes of a call of cargo. -/
inductive CargoEnd where
  | succeeded
  /-- It failed with a status. -/
  | failed (status : String)
  /-- It could not be called. -/
  | uncalled (message : String)

/-- Cargo, as far as the tool looks at it: what comes of a call with arguments. What cargo itself
writes is not part of an outcome. -/
abbrev Cargo := List String → CargoEnd

/-- Calls cargo with one list of arguments after another and announces each call. The first call
that does not succeed is the last. -/
def callAll (cargo : Cargo) (written closing : List String) : List (List String) → Outcome
  | [] => { complaints := Text.lines (written ++ closing) }
  | arguments :: calls =>
    let step := " ".intercalate ("cargo" :: arguments)
    let written := written ++ ["", s!"==> {step}"]
    match cargo arguments with
    | .succeeded => callAll cargo written closing calls
    | .failed status => failure written s!"{step} failed with {status}"
    | .uncalled message => failure written message

/-- Measures how much of the code the tests cover, if the command for that is there. -/
def coverage (cargo : Cargo) (arguments : List String) : Outcome :=
  match cargo ["llvm-cov", "--version"] with
  | .succeeded =>
    callAll cargo [] ["", "Coverage HTML: target/llvm-cov/html/index.html"]
      [["llvm-cov"] ++ arguments ++ ["--html"]]
  | .failed _ | .uncalled _ =>
    failure [] <| "cargo llvm-cov 不可用。\n请先安装：\n- cargo install cargo-llvm-cov\n"
      ++ "- rustup component add llvm-tools-preview\n然后重试。"

/-- What has to pass before a change is taken over: the layout, the lints and the tests. -/
def gates : List (List String) :=
  [["fmt", "--all", "--", "--check"], ["clippy", "--workspace", "--all-targets"],
    ["test", "--workspace"]]

/-! ## Command lines -/

/-- What the tool can do. -/
def help : String :=
"xtask - 开发辅助工具

USAGE:
  cargo xtask <command>

COMMANDS:
  check-all       运行 fmt、clippy、test 门禁检查
  cov-runtime     运行 novel-runtime 覆盖率报告
  cov-workspace   运行 workspace 覆盖率报告
  novel-check     检查作品文件

NOVEL-CHECK:
  cargo xtask novel-check [path]

  不带参数：检查 host-cli/assets/ 下所有 .json 文件
  带路径参数：检查指定文件或目录

  检查内容：
    - 作品 JSON 格式
    - 起始场景、重复 id、空场景
    - 未定义的跳转目标与资源引用
    - 入场跳转环、不可达场景
    - 资源文件是否存在（相对作品文件所在目录）

ALIASES (in .cargo/config.toml):
  cargo check-all     -> cargo xtask check-all
  cargo cov-runtime   -> cargo xtask cov-runtime
  cargo cov-workspace -> cargo xtask cov-workspace
  cargo novel-check   -> cargo xtask novel-check
"

/-- Carries out a command line. -/
def run (cargo : Cargo) (disk : Disk) : List String → Outcome
  | [] => { complaints := Text.line help }
  | "check-all" :: _ => callAll cargo [] [] gates
  | "cov-runtime" :: _ => coverage cargo ["-p", "novel-runtime"]
  | "cov-workspace" :: _ => coverage cargo ["--workspace", "--exclude", "xtask"]
  | "novel-check" :: arguments => ofPath disk arguments.head?
  | command :: _ =>
    if ["help", "-h", "--help"].contains command then { complaints := Text.line help }
    else failure [] s!"unknown xtask subcommand: {command}"

end Review
end VisualNovel
