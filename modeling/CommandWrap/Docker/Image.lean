import CommandWrap.Command.Tree

/-!
# The commands of `docker image`
-/
namespace CommandWrap.Docker

/-- The command `docker image build`. -/
def imageBuildCommand : CommandTree :=
  .node
    { name := "build"
      usage := "build [OPTIONS] PATH | URL | -"
      short := "Build an image from a Dockerfile"
      flags := [
        ⟨"add-host", "list", "Add a custom host-to-IP mapping (host:ip)"⟩,
        ⟨"build-arg", "list", "Set build-time variables"⟩,
        ⟨"cache-from", "string", "Images to consider as cache sources"⟩,
        ⟨"cgroup-parent", "string", "Optional parent cgroup for the container"⟩,
        ⟨"compress", "bool", "Compress the build context using gzip"⟩,
        ⟨"cpu-period", "int64", "Limit the CPU CFS (Completely Fair Scheduler) period"⟩,
        ⟨"cpu-quota", "int64", "Limit the CPU CFS (Completely Fair Scheduler) quota"⟩,
        ⟨"cpu-shares", "int64", "CPU shares (relative weight)"⟩,
        ⟨"cpuset-cpus", "string", "CPUs in which to allow execution (0-3, 0,1)"⟩,
        ⟨"cpuset-mems", "string", "MEMs in which to allow execution (0-3, 0,1)"⟩,
        ⟨"disable-content-trust", "bool", "Skip image verification"⟩,
        ⟨"file", "string", "Name of the Dockerfile (Default is 'PATH/Dockerfile')"⟩,
        ⟨"force-rm", "bool", "Always remove intermediate containers"⟩,
        ⟨"iidfile", "string", "Write the image ID to the file"⟩,
        ⟨"isolation", "string", "Container isolation technology"⟩,
        ⟨"label", "list", "Set metadata for an image"⟩,
        ⟨"memory", "string", "Memory limit"⟩,
        ⟨"memory-swap", "string",
          "Swap limit equal to memory plus swap: '-1' to enable unlimited swap"⟩,
        ⟨"network", "string", "Set the networking mode for the RUN instructions during build"⟩,
        ⟨"no-cache", "bool", "Do not use cache when building the image"⟩,
        ⟨"output", "string", "Output destination (format: type=local,dest=path)"⟩,
        ⟨"platform", "string", "Set platform if server is multi-platform capable"⟩,
        ⟨"progress", "string",
          "Set type of progress output (auto, plain, tty). Use plain to show container output"⟩,
        ⟨"pull", "bool", "Always attempt to pull a newer version of the image"⟩,
        ⟨"quiet", "bool", "Suppress the build output and print image ID on success"⟩,
        ⟨"rm", "bool", "Remove intermediate containers after a successful build"⟩,
        ⟨"secret", "string",
          "Secret file to expose to the build (only if BuildKit enabled): id=mysecret,src=/local/secret"⟩,
        ⟨"security-opt", "string", "Security options"⟩,
        ⟨"shm-size", "string", "Size of /dev/shm"⟩,
        ⟨"squash", "bool", "Squash newly built layers into a single new layer"⟩,
        ⟨"ssh", "string",
          "SSH agent socket or keys to expose to the build (only if BuildKit enabled) (format: default|<id>[=<socket>|<key>[,<key>]])"⟩,
        ⟨"stream", "bool", "Stream attaches to server to negotiate build context"⟩,
        ⟨"tag", "list", "Name and optionally a tag in the 'name:tag' format"⟩,
        ⟨"target", "string", "Set the target build stage to build."⟩,
        ⟨"ulimit", "string", "Ulimit options"⟩] }
    []

/-- The command `docker image history`. -/
def imageHistoryCommand : CommandTree :=
  .node
    { name := "history"
      usage := "history [OPTIONS] IMAGE"
      short := "Show the history of an image"
      flags := [
        ⟨"format", "string", "Pretty-print images using a Go template"⟩,
        ⟨"human", "bool", "Print sizes and dates in human readable format"⟩,
        ⟨"no-trunc", "bool", "Don't truncate output"⟩,
        ⟨"quiet", "bool", "Only show image IDs"⟩] }
    []

/-- The command `docker image import`. -/
def imageImportCommand : CommandTree :=
  .node
    { name := "import"
      usage := "import [OPTIONS] file|URL|- [REPOSITORY[:TAG]]"
      short := "Import the contents from a tarball to create a filesystem image"
      flags := [
        ⟨"change", "list", "Apply Dockerfile instruction to the created image"⟩,
        ⟨"message", "string", "Set commit message for imported image"⟩,
        ⟨"platform", "string", "Set platform if server is multi-platform capable"⟩] }
    []

/-- The command `docker image inspect`. -/
def imageInspectCommand : CommandTree :=
  .node
    { name := "inspect"
      usage := "inspect [OPTIONS] IMAGE [IMAGE...]"
      short := "Display detailed information on one or more images"
      flags := [
        ⟨"format", "string", "Format the output using the given Go template"⟩] }
    []

/-- The command `docker image load`. -/
def imageLoadCommand : CommandTree :=
  .node
    { name := "load"
      usage := "load [OPTIONS]"
      short := "Load an image from a tar archive or STDIN"
      flags := [
        ⟨"input", "string", "Read from tar archive file, instead of STDIN"⟩,
        ⟨"quiet", "bool", "Suppress the load output"⟩] }
    []

/-- The command `docker image ls`. -/
def imageLsCommand : CommandTree :=
  .node
    { name := "ls"
      usage := "ls [OPTIONS] [REPOSITORY[:TAG]]"
      short := "List images"
      flags := [
        ⟨"all", "bool", "Show all images (default hides intermediate images)"⟩,
        ⟨"digests", "bool", "Show digests"⟩,
        ⟨"filter", "string", "Filter output based on conditions provided"⟩,
        ⟨"format", "string", "Pretty-print images using a Go template"⟩,
        ⟨"no-trunc", "bool", "Don't truncate output"⟩,
        ⟨"quiet", "bool", "Only show image IDs"⟩] }
    []

/-- The command `docker image prune`. -/
def imagePruneCommand : CommandTree :=
  .node
    { name := "prune"
      usage := "prune [OPTIONS]"
      short := "Remove unused images"
      flags := [
        ⟨"all", "bool", "Remove all unused images, not just dangling ones"⟩,
        ⟨"filter", "string", "Provide filter values (e.g. 'until=<timestamp>')"⟩,
        ⟨"force", "bool", "Do not prompt for confirmation"⟩] }
    []

/-- The command `docker image pull`. -/
def imagePullCommand : CommandTree :=
  .node
    { name := "pull"
      usage := "pull [OPTIONS] NAME[:TAG|@DIGEST]"
      short := "Pull an image or a repository from a registry"
      flags := [
        ⟨"all-tags", "bool", "Download all tagged images in the repository"⟩,
        ⟨"disable-content-trust", "bool", "Skip image verification"⟩,
        ⟨"platform", "string", "Set platform if server is multi-platform capable"⟩,
        ⟨"quiet", "bool", "Suppress verbose output"⟩] }
    []

/-- The command `docker image push`. -/
def imagePushCommand : CommandTree :=
  .node
    { name := "push"
      usage := "push [OPTIONS] NAME[:TAG]"
      short := "Push an image or a repository to a registry"
      flags := [
        ⟨"all-tags", "bool", "Push all tagged images in the repository"⟩,
        ⟨"disable-content-trust", "bool", "Skip image signing"⟩,
        ⟨"quiet", "bool", "Suppress verbose output"⟩] }
    []

/-- The command `docker image rm`. -/
def imageRmCommand : CommandTree :=
  .node
    { name := "rm"
      usage := "rm [OPTIONS] IMAGE [IMAGE...]"
      short := "Remove one or more images"
      flags := [
        ⟨"force", "bool", "Force removal of the image"⟩,
        ⟨"no-prune", "bool", "Do not delete untagged parents"⟩] }
    []

/-- The command `docker image save`. -/
def imageSaveCommand : CommandTree :=
  .node
    { name := "save"
      usage := "save [OPTIONS] IMAGE [IMAGE...]"
      short := "Save one or more images to a tar archive (streamed to STDOUT by default)"
      flags := [
        ⟨"output", "string", "Write to a file, instead of STDOUT"⟩] }
    []

/-- The command `docker image tag`. -/
def imageTagCommand : CommandTree :=
  .node
    { name := "tag"
      usage := "tag SOURCE_IMAGE[:TAG] TARGET_IMAGE[:TAG]"
      short := "Create a tag TARGET_IMAGE that refers to SOURCE_IMAGE" }
    []

/-- The command `docker image`. -/
def imageCommand : CommandTree :=
  .node
    { name := "image"
      usage := "image"
      short := "Manage images" }
    [imageBuildCommand, imageHistoryCommand, imageImportCommand, imageInspectCommand,
      imageLoadCommand, imageLsCommand, imagePruneCommand, imagePullCommand, imagePushCommand,
      imageRmCommand, imageSaveCommand, imageTagCommand]

end CommandWrap.Docker
