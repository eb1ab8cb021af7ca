import CommandWrap.Command.Tree

/-!
# Commands directly below `docker`, from attach to kill
-/
namespace CommandWrap.Docker

/-- The command `docker attach`. -/
def attachCommand : CommandTree :=
  .node
    { name := "attach"
      usage := "attach [OPTIONS] CONTAINER"
      short := "Attach local standard input, output, and error streams to a running container"
      flags := [
        ⟨"detach-keys", "string", "Override the key sequence for detaching a container"⟩,
        ⟨"no-stdin", "bool", "Do not attach STDIN"⟩,
        ⟨"sig-proxy", "bool", "Proxy all received signals to the process"⟩] }
    []

/-- The command `docker build`. -/
def buildCommand : CommandTree :=
  .node
    { name := "build"
      usage := "build [OPTIONS] PATH | URL | -"
      short := "Build an image from a Dockerfile"
      flags := [
        ⟨"add-host", "list", "Add a custom host-to-IP mapping (host:ip)"⟩,
        ⟨"build-arg", "list", "Set build-time variables"⟩,
        ⟨"cache-from", "string", "Images to consider as cache sources"⟩,
        ⟨"cgroup-parent", "string", "Optional parent cgroup for the container"⟩,
        ⟨"compress", "bool", "Compress the build context using gzip"⟩,
        ⟨"cpu-period", "int64", "Limit the CPU CFS (Completely Fair Scheduler) period"⟩,
        ⟨"cpu-quota", "int64", "Limit the CPU CFS (Completely Fair Scheduler) quota"⟩,
        ⟨"cpu-shares", "int64", "CPU shares (relative weight)"⟩,
        ⟨"cpuset-cpus", "string", "CPUs in which to allow execution (0-3, 0,1)"⟩,
        ⟨"cpuset-mems", "string", "MEMs in which to allow execution (0-3, 0,1)"⟩,
        ⟨"disable-content-trust", "bool", "Skip image verification"⟩,
        ⟨"file", "string", "Name of the Dockerfile (Default is 'PATH/Dockerfile')"⟩,
        ⟨"force-rm", "bool", "Always remove intermediate containers"⟩,
        ⟨"iidfile", "string", "Write the image ID to the file"⟩,
        ⟨"isolation", "string", "Container isolation technology"⟩,
        ⟨"label", "list", "Set metadata for an image"⟩,
        ⟨"memory", "string", "Memory limit"⟩,
        ⟨"memory-swap", "string",
          "Swap limit equal to memory plus swap: '-1' to enable unlimited swap"⟩,
        ⟨"network", "string", "Set the networking mode for the RUN instructions during build"⟩,
        ⟨"no-cache", "bool", "Do not use cache when building the image"⟩,
        ⟨"output", "string", "Output destination (format: type=local,dest=path)"⟩,
        ⟨"platform", "string", "Set platform if server is multi-platform capable"⟩,
        ⟨"progress", "string",
          "Set type of progress output (auto, plain, tty). Use plain to show container output"⟩,
        ⟨"pull", "bool", "Always attempt to pull a newer version of the image"⟩,
        ⟨"quiet", "bool", "Suppress the build output and print image ID on success"⟩,
        ⟨"rm", "bool", "Remove intermediate containers after a successful build"⟩,
        ⟨"secret", "string",
          "Secret file to expose to the build (only if BuildKit enabled): id=mysecret,src=/local/secret"⟩,
        ⟨"security-opt", "string", "Security options"⟩,
        ⟨"shm-size", "string", "Size of /dev/shm"⟩,
        ⟨"squash", "bool", "Squash newly built layers into a single new layer"⟩,
        ⟨"ssh", "string",
          "SSH agent socket or keys to expose to the build (only if BuildKit enabled) (format: default|<id>[=<socket>|<key>[,<key>]])"⟩,
        ⟨"stream", "bool", "Stream attaches to server to negotiate build context"⟩,
        ⟨"tag", "list", "Name and optionally a tag in the 'name:tag' format"⟩,
        ⟨"target", "string", "Set the target build stage to build."⟩,
        ⟨"ulimit", "string", "Ulimit options"⟩] }
    []

/-- The command `docker commit`. -/
def commitCommand : CommandTree :=
  .node
    { name := "commit"
      usage := "commit [OPTIONS] CONTAINER [REPOSITORY[:TAG]]"
      short := "Create a new image from a container's changes"
      flags := [
        ⟨"author", "string", "Author (e.g., \"John Hannibal Smith <hannibal@a-team.com>\")"⟩,
        ⟨"change", "list", "Apply Dockerfile instruction to the created image"⟩,
        ⟨"message", "string", "Commit message"⟩,
        ⟨"pause", "bool", "Pause container during commit"⟩] }
    []

/-- The command `docker cp`. -/
def cpCommand : CommandTree :=
  .node
    { name := "cp"
      usage := "cp [OPTIONS] CONTAINER:SRC_PATH DEST_PATH|-\n\n\tdocker cp [OPTIONS] SRC_PATH|- CONTAINER:DEST_PATH"
      short := "Copy files/folders between a container and the local filesystem"
      flags := [
        ⟨"archive", "bool", "Archive mode (copy all uid/gid information)"⟩,
        ⟨"follow-link", "bool", "Always follow symbol link in SRC_PATH"⟩] }
    []

/-- The command `docker create`. -/
def createCommand : CommandTree :=
  .node
    { name := "create"
      usage := "create [OPTIONS] IMAGE [COMMAND] [ARG...]"
      short := "Create a new container"
      flags := [
        ⟨"add-host", "list", "Add a custom host-to-IP mapping (host:ip)"⟩,
        ⟨"attach", "list", "Attach to STDIN, STDOUT or STDERR"⟩,
        ⟨"blkio-weight", "uint16",
          "Block IO (relative weight), between 10 and 1000, or 0 to disable (default 0)"⟩,
        ⟨"blkio-weight-device", "list", "Block IO weight (relative device weight)"⟩,
        ⟨"cap-add", "list", "Add Linux capabilities"⟩,
        ⟨"cap-drop", "list", "Drop Linux capabilities"⟩,
        ⟨"cgroup-parent", "string", "Optional parent cgroup for the container"⟩,
        ⟨"cgroupns", "string",
          "Cgroup namespace to use (host|private)\n'host':    Run the container in the Docker host's cgroup namespace\n'private': Run the container in its own private cgroup namespace\n'':        Use the cgroup namespace as configured by the\n           default-cgroupns-mode option on the daemon (default)"⟩,
        ⟨"cidfile", "string", "Write the container ID to the file"⟩,
        ⟨"cpu-count", "int64", "CPU count (Windows only)"⟩,
        ⟨"cpu-percent", "int64", "CPU percent (Windows only)"⟩,
        ⟨"cpu-period", "int64", "Limit CPU CFS (Completely Fair Scheduler) period"⟩,
        ⟨"cpu-quota", "int64", "Limit CPU CFS (Completely Fair Scheduler) quota"⟩,
        ⟨"cpu-rt-period", "int64", "Limit CPU real-time period in microseconds"⟩,
        ⟨"cpu-rt-runtime", "int64", "Limit CPU real-time runtime in microseconds"⟩,
        ⟨"cpu-shares", "int64", "CPU shares (relative weight)"⟩,
        ⟨"cpus", "string", "Number of CPUs"⟩,
        ⟨"cpuset-cpus", "string", "CPUs in which to allow execution (0-3, 0,1)"⟩,
        ⟨"cpuset-mems", "string", "MEMs in which to allow execution (0-3, 0,1)"⟩,
        ⟨"device", "list", "Add a host device to the container"⟩,
        ⟨"device-cgroup-rule", "list", "Add a rule to the cgroup allowed devices list"⟩,
        ⟨"device-read-bps", "list", "Limit read rate (bytes per second) from a device"⟩,
        ⟨"device-read-iops", "list", "Limit read rate (IO per second) from a device"⟩,
        ⟨"device-write-bps", "list", "Limit write rate (bytes per second) to a device"⟩,
        ⟨"device-write-iops", "list", "Limit write rate (IO per second) to a device"⟩,
        ⟨"disable-content-trust", "bool", "Skip image verification"⟩,
        ⟨"dns", "list", "Set custom DNS servers"⟩,
        ⟨"dns-opt", "list", "Set DNS options"⟩,
        ⟨"dns-option", "list", "Set DNS options"⟩,
        ⟨"dns-search", "list", "Set custom DNS search domains"⟩,
        ⟨"domainname", "string", "Container NIS domain name"⟩,
        ⟨"entrypoint", "string", "Overwrite the default ENTRYPOINT of the image"⟩,
        ⟨"env", "list", "Set environment variables"⟩,
        ⟨"env-file", "list", "Read in a file of environment variables"⟩,
        ⟨"expose", "list", "Expose a port or a range of ports"⟩,
        ⟨"gpus", "string", "GPU devices to add to the container ('all' to pass all GPUs)"⟩,
        ⟨"group-add", "list", "Add additional groups to join"⟩,
        ⟨"health-cmd", "string", "Command to run to check health"⟩,
        ⟨"health-interval", "string", "Time between running the check (ms|s|m|h) (default 0s)"⟩,
        ⟨"health-retries", "int", "Consecutive failures needed to report unhealthy"⟩,
        ⟨"health-start-period", "string",
          "Start period for the container to initialize before starting health-retries countdown (ms|s|m|h) (default 0s)"⟩,
        ⟨"health-timeout", "string",
          "Maximum time to allow one check to run (ms|s|m|h) (default 0s)"⟩,
        ⟨"help", "bool", "Print usage"⟩,
        ⟨"hostname", "string", "Container host name"⟩,
        ⟨"init", "bool",
          "Run an init inside the container that forwards signals and reaps processes"⟩,
        ⟨"interactive", "bool", "Keep STDIN open even if not attached"⟩,
        ⟨"io-maxbandwidth", "string",
          "Maximum IO bandwidth limit for the system drive (Windows only)"⟩,
        ⟨"io-maxiops", "uint64", "Maximum IOps limit for the system drive (Windows only)"⟩,
        ⟨"ip", "string", "IPv4 address (e.g., 172.30.100.104)"⟩,
        ⟨"ip6", "string", "IPv6 address (e.g., 2001:db8::33)"⟩,
        ⟨"ipc", "string", "IPC mode to use"⟩,
        ⟨"isolation", "string", "Container isolation technology"⟩,
        ⟨"kernel-memory", "string", "Kernel memory limit"⟩,
        ⟨"label", "list", "Set meta data on a container"⟩,
        ⟨"label-file", "list", "Read in a line delimited file of labels"⟩,
        ⟨"link", "list", "Add link to another container"⟩,
        ⟨"link-local-ip", "list", "Container IPv4/IPv6 link-local addresses"⟩,
        ⟨"log-driver", "string", "Logging driver for the container"⟩,
        ⟨"log-opt", "list", "Log driver options"⟩,
        ⟨"mac-address", "string", "Container MAC address (e.g., 92:d0:c6:0a:29:33)"⟩,
        ⟨"memory", "string", "Memory limit"⟩,
        ⟨"memory-reservation", "string", "Memory soft limit"⟩,
        ⟨"memory-swap", "string",
          "Swap limit equal to memory plus swap: '-1' to enable unlimited swap"⟩,
        ⟨"memory-swappiness", "int64", "Tune container memory swappiness (0 to 100)"⟩,
        ⟨"mount", "string", "Attach a filesystem mount to the container"⟩,
        ⟨"name", "string", "Assign a name to the container"⟩,
        ⟨"net", "string", "Connect a container to a network"⟩,
        ⟨"net-alias", "list", "Add network-scoped alias for the container"⟩,
        ⟨"network", "string", "Connect a container to a network"⟩,
        ⟨"network-alias", "list", "Add network-scoped alias for the container"⟩,
        ⟨"no-healthcheck", "bool", "Disable any container-specified HEALTHCHECK"⟩,
        ⟨"oom-kill-disable", "bool", "Disable OOM Killer"⟩,
        ⟨"oom-score-adj", "int", "Tune host's OOM preferences (-1000 to 1000)"⟩,
        ⟨"pid", "string", "PID namespace to use"⟩,
        ⟨"pids-limit", "int64", "Tune container pids limit (set -1 for unlimited)"⟩,
        ⟨"platform", "string", "Set platform if server is multi-platform capable"⟩,
        ⟨"privileged", "bool", "Give extended privileges to this container"⟩,
        ⟨"publish", "list", "Publish a container's port(s) to the host"⟩,
        ⟨"publish-all", "bool", "Publish all exposed ports to random ports"⟩,
        ⟨"pull", "string", "Pull image before creating (\"always\"|\"missing\"|\"never\")"⟩,
        ⟨"read-only", "bool", "Mount the container's root filesystem as read only"⟩,
        ⟨"restart", "string", "Restart policy to apply when a container exits"⟩,
        ⟨"rm", "bool", "Automatically remove the container when it exits"⟩,
        ⟨"runtime", "string", "Runtime to use for this container"⟩,
        ⟨"security-opt", "list", "Security Options"⟩,
        ⟨"shm-size", "string", "Size of /dev/shm"⟩,
        ⟨"stop-signal", "string", "Signal to stop a container"⟩,
        ⟨"stop-timeout", "int", "Timeout (in seconds) to stop a container"⟩,
        ⟨"storage-opt", "list", "Storage driver options for the container"⟩,
        ⟨"sysctl", "map", "Sysctl options"⟩,
        ⟨"tmpfs", "list", "Mount a tmpfs directory"⟩,
        ⟨"tty", "bool", "Allocate a pseudo-TTY"⟩,
        ⟨"ulimit", "string", "Ulimit options"⟩,
        ⟨"user", "string", "Username or UID (format: <name|uid>[:<group|gid>])"⟩,
        ⟨"userns", "string", "User namespace to use"⟩,
        ⟨"uts", "string", "UTS namespace to use"⟩,
        ⟨"volume", "list", "Bind mount a volume"⟩,
        ⟨"volume-driver", "string", "Optional volume driver for the container"⟩,
        ⟨"volumes-from", "list", "Mount volumes from the specified container(s)"⟩,
        ⟨"workdir", "string", "Working directory inside the container"⟩] }
    []

/-- The command `docker diff`. -/
def diffCommand : CommandTree :=
  .node
    { name := "diff"
      usage := "diff CONTAINER"
      short := "Inspect changes to files or directories on a container's filesystem" }
    []

/-- The command `docker events`. -/
def eventsCommand : CommandTree :=
  .node
    { name := "events"
      usage := "events [OPTIONS]"
      short := "Get real time events from the server"
      flags := [
        ⟨"filter", "string", "Filter output based on conditions provided"⟩,
        ⟨"format", "string", "Format the output using the given Go template"⟩,
        ⟨"since", "string", "Show all events created since timestamp"⟩,
        ⟨"until", "string", "Stream events until this timestamp"⟩] }
    []

/-- The command `docker exec`. -/
def execCommand : CommandTree :=
  .node
    { name := "exec"
      usage := "exec [OPTIONS] CONTAINER COMMAND [ARG...]"
      short := "Run a command in a running container"
      flags := [
        ⟨"detach", "bool", "Detached mode: run command in the background"⟩,
        ⟨"detach-keys", "string", "Override the key sequence for detaching a container"⟩,
        ⟨"env", "list", "Set environment variables"⟩,
        ⟨"env-file", "list", "Read in a file of environment variables"⟩,
        ⟨"interactive", "bool", "Keep STDIN open even if not attached"⟩,
        ⟨"privileged", "bool", "Give extended privileges to the command"⟩,
        ⟨"tty", "bool", "Allocate a pseudo-TTY"⟩,
        ⟨"user", "string", "Username or UID (format: <name|uid>[:<group|gid>])"⟩,
        ⟨"workdir", "string", "Working directory inside the container"⟩] }
    []

/-- The command `docker export`. -/
def exportCommand : CommandTree :=
  .node
    { name := "export"
      usage := "export [OPTIONS] CONTAINER"
      short := "Export a container's filesystem as a tar archive"
      flags := [
        ⟨"output", "string", "Write to a file, instead of STDOUT"⟩] }
    []

/-- The command `docker history`. -/
def historyCommand : CommandTree :=
  .node
    { name := "history"
      usage := "history [OPTIONS] IMAGE"
      short := "Show the history of an image"
      flags := [
        ⟨"format", "string", "Pretty-print images using a Go template"⟩,
        ⟨"human", "bool", "Print sizes and dates in human readable format"⟩,
        ⟨"no-trunc", "bool", "Don't truncate output"⟩,
        ⟨"quiet", "bool", "Only show image IDs"⟩] }
    []

/-- The command `docker images`. -/
def imagesCommand : CommandTree :=
  .node
    { name := "images"
      usage := "images [OPTIONS] [REPOSITORY[:TAG]]"
      short := "List images"
      flags := [
        ⟨"all", "bool", "Show all images (default hides intermediate images)"⟩,
        ⟨"digests", "bool", "Show digests"⟩,
        ⟨"filter", "string", "Filter output based on conditions provided"⟩,
        ⟨"format", "string", "Pretty-print images using a Go template"⟩,
        ⟨"no-trunc", "bool", "Don't truncate output"⟩,
        ⟨"quiet", "bool", "Only show image IDs"⟩] }
    []

/-- The command `docker import`. -/
def importCommand : CommandTree :=
  .node
    { name := "import"
      usage := "import [OPTIONS] file|URL|- [REPOSITORY[:TAG]]"
      short := "Import the contents from a tarball to create a filesystem image"
      flags := [
        ⟨"change", "list", "Apply Dockerfile instruction to the created image"⟩,
        ⟨"message", "string", "Set commit message for imported image"⟩,
        ⟨"platform", "string", "Set platform if server is multi-platform capable"⟩] }
    []

/-- The command `docker info`. -/
def infoCommand : CommandTree :=
  .node
    { name := "info"
      usage := "info [OPTIONS]"
      short := "Display system-wide information"
      flags := [
        ⟨"format", "string", "Format the output using the given Go template"⟩] }
    []

/-- The command `docker inspect`. -/
def inspectCommand : CommandTree :=
  .node
    { name := "inspect"
      usage := "inspect [OPTIONS] NAME|ID [NAME|ID...]"
      short := "Return low-level information on Docker objects"
      flags := [
        ⟨"format", "string", "Format the output using the given Go template"⟩,
        ⟨"size", "bool", "Display total file sizes if the type is container"⟩,
        ⟨"type", "string", "Return JSON for specified type"⟩] }
    []

/-- The command `docker kill`. -/
def killCommand : CommandTree :=
  .node
    { name := "kill"
      usage := "kill [OPTIONS] CONTAINER [CONTAINER...]"
      short := "Kill one or more running containers"
      flags := [
        ⟨"signal", "string", "Signal to send to the container"⟩] }
    []

end CommandWrap.Docker
